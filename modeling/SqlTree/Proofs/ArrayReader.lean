-- Array literals, read back. The reader takes the characters one by one and keeps the arrays that
-- are still open on a stack. It finds in a literal the items that the literal was made of.
import SqlTree.Value.ArrayLiteral

namespace SqlTree

/-! ## The reader -/

/-- What an array literal shows of an item. -/
inductive Element where
  | null
  | text (s : String)
  | array (items : List Element)
deriving Repr

namespace ArrayLiteral

/-- Whether an element without quotes is NULL, in letters of either case. -/
def isNullWord : List Char → Bool
  | [a, b, c, d] =>
    (a == 'N' || a == 'n') && (b == 'U' || b == 'u') && (c == 'L' || c == 'l')
      && (d == 'L' || d == 'l')
  | _ => false

/-- The element that a word without quotes is. -/
def bareElement (word : List Char) : Element :=
  if isNullWord word then .null else .text (String.ofList word)

/-- The characters that no element without quotes holds, whatever the delimiter. White space would
not count there. -/
def isMark (c : Char) : Bool :=
  c == '\x7b' || c == '\x7d' || c == '"' || c == '\\' || Text.isBlank c

/-- The characters that can stand in an element without quotes. -/
def isBare (delimiter c : Char) : Bool :=
  c != delimiter && !isMark c

/-- Where a reader of array literals stands. It has the elements `done` of the innermost open array
and those of the arrays around it, each in reverse, and an unfinished element in reverse. -/
inductive Reading where
  /-- The brace of the whole array must come. -/
  | start
  /-- An array has just been opened. -/
  | first (outer : List (List Element))
  /-- An element must come. -/
  | next (done : List Element) (outer : List (List Element))
  | bare (read : List Char) (done : List Element) (outer : List (List Element))
  | quoted (read : List Char) (done : List Element) (outer : List (List Element))
  /-- After a backslash in a quoted element. -/
  | escaped (read : List Char) (done : List Element) (outer : List (List Element))
  /-- An element has been closed. -/
  | after (done : List Element) (outer : List (List Element))
  /-- The whole array has been closed. -/
  | finished (items : List Element)

namespace Reading

/-- A brace that closes the innermost array. -/
def close (done : List Element) : List (List Element) → Reading
  | [] => finished done.reverse
  | up :: outer => after (.array done.reverse :: up) outer

/-- The first character of an element. -/
def enter (delimiter : Char) (done : List Element) (outer : List (List Element)) (c : Char) :
    Option Reading :=
  if c == '"' then some (quoted [] done outer)
  else if c == '\x7b' then some (first (done :: outer))
  else if isBare delimiter c then some (bare [c] done outer)
  else none

/-- A character after an element. -/
def leave (delimiter : Char) (done : List Element) (outer : List (List Element)) (c : Char) :
    Option Reading :=
  if c == delimiter then some (next done outer)
  else if c == '\x7d' then some (close done outer)
  else none

/-- One character further. -/
def step (delimiter : Char) : Reading → Char → Option Reading
  | start, c => if c == '\x7b' then some (first []) else none
  | first outer, c =>
    if c == '\x7d' then some (close [] outer) else enter delimiter [] outer c
  | next done outer, c => enter delimiter done outer c
  | bare read done outer, c =>
    if isBare delimiter c then some (bare (c :: read) done outer)
    else leave delimiter (bareElement read.reverse :: done) outer c
  | quoted read done outer, c =>
    if c == '"' then some (after (.text (String.ofList read.reverse) :: done) outer)
    else if c == '\\' then some (escaped read done outer)
    else some (quoted (c :: read) done outer)
  | escaped read done outer, c => some (quoted (c :: read) done outer)
  | after done outer, c => leave delimiter done outer c
  | finished _, _ => none

/-- The items of the array, if the text may end here. -/
def finish? : Reading → Option (List Element)
  | finished items => some items
  | _ => none

end Reading

/-- The items of the array that a whole text is the literal of. -/
def read? (delimiter : Char) (literal : String) : Option (List Element) :=
  literal.toList.foldlM (Reading.step delimiter) .start >>= Reading.finish?

end ArrayLiteral

/-! ## What is to be found -/

mutual
/-- What the literal of an array shows of a value in it: null, an array, or the value's text. -/
def Value.element : Value → Element
  | .array items => .array (elements items)
  | v =>
    match v.toText? with
    | some s => .text s
    | none => .null

def Value.elements : List Value → List Element
  | [] => []
  | v :: vs => v.element :: elements vs
end

/-! ## Over one element -/

namespace ArrayLiteral

open Reading

variable {delimiter : Char} {s : Reading} {done : List Element} {outer : List (List Element)}

/-- An element may come next, as the first of its array or as a later one. -/
inductive Reading.Awaits : Reading → List Element → List (List Element) → Prop where
  | first (outer : List (List Element)) : Awaits (first outer) [] outer
  | next (done : List Element) (outer : List (List Element)) : Awaits (next done outer) done outer

theorem Reading.Awaits.step_eq {c : Char} (h : s.Awaits done outer) (hc : c ≠ '\x7d') :
    s.step delimiter c = enter delimiter done outer c := by
  cases h with
  | first outer => simp only [step, beq_iff_eq, if_neg hc]
  | next done outer => rfl

/-- The elements up to here are `done`: a delimiter or a closing brace may come next. -/
def Reading.Holds (delimiter : Char) (s : Reading) (done : List Element)
    (outer : List (List Element)) : Prop :=
  s.step delimiter delimiter = some (next done outer)
    ∧ s.step delimiter '\x7d' = some (close done outer)

theorem holds_after (hbrace : delimiter ≠ '\x7d') :
    (after done outer).Holds delimiter done outer := by
  constructor
  · simp only [step, leave, beq_self_eq_true, if_true]
  · simp only [step, leave, beq_iff_eq, if_neg hbrace.symm, if_true]

theorem holds_bare (hbrace : delimiter ≠ '\x7d') (read : List Char) :
    (bare read done outer).Holds delimiter (bareElement read.reverse :: done) outer := by
  have hdelimiter : isBare delimiter delimiter = false := by simp [isBare]
  have hclosing : isBare delimiter '\x7d' = false := by simp [isBare, isMark]
  constructor
  · simp only [step, hdelimiter, leave, beq_self_eq_true, if_true, Bool.false_eq_true, if_false]
  · simp only [step, hclosing, leave, beq_iff_eq, if_neg hbrace.symm, if_true, Bool.false_eq_true,
      if_false]

/-- A reader that awaits an element takes these characters for these elements. -/
def Reads (delimiter : Char) (cs : List Char) (elements : List Element) : Prop :=
  ∀ ⦃s done outer⦄, s.Awaits done outer →
    ∃ t, cs.foldlM (step delimiter) s = some t ∧ t.Holds delimiter (elements.reverse ++ done) outer

theorem run_bare {cs : List Char} (h : ∀ c ∈ cs, isBare delimiter c) (read : List Char) :
    cs.foldlM (step delimiter) (bare read done outer)
      = some (bare (cs.reverse ++ read) done outer) := by
  induction cs generalizing read with
  | nil => rfl
  | cons c cs ih =>
    have hstep : (bare read done outer).step delimiter c = some (bare (c :: read) done outer) := by
      simp only [step, h c List.mem_cons_self, if_true]
    rw [List.foldlM_cons, hstep, List.reverse_cons, List.append_assoc]
    exact ih (fun x hx => h x (List.mem_cons_of_mem c hx)) (c :: read)

theorem reads_bare (hbrace : delimiter ≠ '\x7d') {cs : List Char} (hne : cs ≠ [])
    (h : ∀ c ∈ cs, isBare delimiter c) : Reads delimiter cs [bareElement cs] := by
  obtain ⟨c, cs, rfl⟩ := List.exists_cons_of_ne_nil hne
  intro s done outer hs
  have hc : isBare delimiter c := h c List.mem_cons_self
  have hmarks : c ≠ '"' ∧ c ≠ '\x7b' ∧ c ≠ '\x7d' := by
    refine ⟨?_, ?_, ?_⟩ <;> rintro rfl <;> simp [isBare, isMark] at hc
  have hstep : s.step delimiter c = some (bare [c] done outer) := by
    rw [hs.step_eq hmarks.2.2]
    simp only [enter, beq_iff_eq, if_neg hmarks.1, if_neg hmarks.2.1, hc, if_true]
  refine ⟨bare (cs.reverse ++ [c]) done outer, ?_, ?_⟩
  · rw [List.foldlM_cons, hstep]
    exact run_bare (fun x hx => h x (List.mem_cons_of_mem c hx)) [c]
  · have hword : (cs.reverse ++ [c]).reverse = c :: cs := by simp
    have hholds : (bare (cs.reverse ++ [c]) done outer).Holds delimiter
        (bareElement (cs.reverse ++ [c]).reverse :: done) outer := holds_bare hbrace _
    rwa [hword] at hholds

theorem run_escapeChar (c : Char) (read : List Char) :
    (escapeChar c).foldlM (step delimiter) (quoted read done outer)
      = some (quoted (c :: read) done outer) := by
  by_cases h : c = '"' ∨ c = '\\'
  -- The backslash takes the reader to `escaped`, from where any character goes on.
  · rcases h with rfl | rfl <;> rfl
  · obtain ⟨hquote, hback⟩ := not_or.mp h
    simp only [escapeChar, Bool.or_eq_true, beq_iff_eq, if_neg h, List.foldlM_cons, step,
      if_neg hquote, if_neg hback]
    rfl

theorem run_escaped (cs read : List Char) :
    (cs.flatMap escapeChar).foldlM (step delimiter) (quoted read done outer)
      = some (quoted (cs.reverse ++ read) done outer) := by
  induction cs generalizing read with
  | nil => rfl
  | cons c cs ih =>
    rw [List.flatMap_cons, List.foldlM_append, run_escapeChar, List.reverse_cons,
      List.append_assoc]
    exact ih (c :: read)

theorem reads_quoted (hbrace : delimiter ≠ '\x7d') (cs : List Char) :
    Reads delimiter ('"' :: (cs.flatMap escapeChar ++ ['"'])) [.text (String.ofList cs)] := by
  intro s done outer hs
  refine ⟨after (.text (String.ofList cs) :: done) outer, ?_, holds_after hbrace⟩
  have hopen : s.step delimiter '"' = some (quoted [] done outer) := hs.step_eq (by decide)
  rw [List.foldlM_cons, hopen]
  show (cs.flatMap escapeChar ++ ['"']).foldlM (step delimiter) (quoted [] done outer) = _
  rw [List.foldlM_append, run_escaped, List.append_nil]
  show some (after (.text (String.ofList cs.reverse.reverse) :: done) outer) = _
  rw [List.reverse_reverse]

theorem spellsNull_of_isNullWord {cs : List Char} (h : isNullWord cs) : spellsNull cs := by
  match cs, h with
  | [a, b, c, d], h =>
    simp only [isNullWord, Bool.and_eq_true, Bool.or_eq_true, beq_iff_eq] at h
    obtain ⟨⟨⟨ha, hb⟩, hc⟩, hd⟩ := h
    rcases ha with rfl | rfl <;> rcases hb with rfl | rfl <;> rcases hc with rfl | rfl <;>
      rcases hd with rfl | rfl <;> rfl

theorem isBare_eq_not_isSpecial (c : Char) : isBare delimiter c = !isSpecial delimiter c := by
  simp only [isBare, isMark, isSpecial, bne, Bool.not_or, Bool.and_assoc]

/-- An element that stands without quotes is read as its own text, one in quotes as the text that
its escapes spell. -/
theorem reads_elementChars (hbrace : delimiter ≠ '\x7d') (cs : List Char) :
    Reads delimiter (elementChars delimiter cs) [.text (String.ofList cs)] := by
  by_cases hquotes : needsQuotes delimiter cs
  · rw [elementChars, if_pos hquotes]
    exact reads_quoted hbrace cs
  · rw [elementChars, if_neg hquotes]
    simp only [needsQuotes, Bool.or_eq_true, not_or, Bool.not_eq_true, List.any_eq_false,
      List.isEmpty_eq_false_iff] at hquotes
    obtain ⟨⟨hne, hnull⟩, hspecial⟩ := hquotes
    have hword : isNullWord cs = false :=
      Bool.eq_false_iff.mpr fun h => by simp [spellsNull_of_isNullWord h] at hnull
    have hbare : ∀ c ∈ cs, isBare delimiter c := by
      intro c hc
      rw [isBare_eq_not_isSpecial, hspecial c hc]
      rfl
    have hread := reads_bare hbrace hne hbare
    rwa [bareElement, hword] at hread

theorem reads_null (hbrace : delimiter ≠ '\x7d') (hletters : delimiter ∉ ['N', 'U', 'L']) :
    Reads delimiter ['N', 'U', 'L', 'L'] [.null] := by
  have hmark : ['N', 'U', 'L', 'L'].all (!isMark ·) = true := rfl
  refine reads_bare hbrace (List.cons_ne_nil _ _) fun c hc => ?_
  have hne : c ≠ delimiter := by
    rintro rfl
    exact hletters (by simpa using hc)
  rw [isBare, bne_iff_ne.mpr hne]
  exact List.all_eq_true.mp hmark c hc

/-! ## Over whole arrays -/

theorem Reads.delimited {cs ds : List Char} {es fs : List Element} (hcs : Reads delimiter cs es)
    (hds : Reads delimiter ds fs) : Reads delimiter (cs ++ delimiter :: ds) (es ++ fs) := by
  intro s done outer hs
  obtain ⟨t, hrun, hdelimiter, -⟩ := hcs hs
  obtain ⟨u, hrun', hholds⟩ := hds (.next (es.reverse ++ done) outer)
  refine ⟨u, ?_, ?_⟩
  · rw [List.foldlM_append, hrun]
    show (delimiter :: ds).foldlM (step delimiter) t = some u
    rw [List.foldlM_cons, hdelimiter]
    exact hrun'
  · rwa [List.reverse_append, List.append_assoc]

/-- The inside of an array and its closing brace. -/
theorem run_closed {cs : List Char} {es : List Element}
    (h : cs = [] ∧ es = [] ∨ Reads delimiter cs es) (outer : List (List Element)) :
    (cs ++ ['\x7d']).foldlM (step delimiter) (first outer) = some (close es.reverse outer) := by
  rcases h with ⟨rfl, rfl⟩ | h
  · rfl
  · obtain ⟨t, hrun, -, hclose⟩ := h (.first outer)
    rw [List.foldlM_append, hrun]
    show List.foldlM (step delimiter) t ['\x7d'] = _
    rw [List.foldlM_cons, hclose, List.append_nil]
    rfl

theorem reads_array (hbrace : delimiter ≠ '\x7d') {cs : List Char} {es : List Element}
    (h : cs = [] ∧ es = [] ∨ Reads delimiter cs es) :
    Reads delimiter ('\x7b' :: (cs ++ ['\x7d'])) [.array es] := by
  intro s done outer hs
  refine ⟨after (.array es :: done) outer, ?_, holds_after hbrace⟩
  have hopen : s.step delimiter '\x7b' = some (first (done :: outer)) := hs.step_eq (by decide)
  have hclosed := run_closed h (done :: outer)
  rw [close, List.reverse_reverse] at hclosed
  rw [List.foldlM_cons, hopen]
  exact hclosed

theorem reads_item_of_text (hbrace : delimiter ≠ '\x7d') {v : Value} {text : String}
    (h : v.toText? = some text) : Reads delimiter (itemChars delimiter v) [v.element] := by
  have hchars : itemChars delimiter v = elementChars delimiter text.toList := by
    cases v <;> simp_all [itemChars, Value.toText?]
  have helement : v.element = .text text := by
    cases v <;> simp_all [Value.element, Value.toText?]
  have hread := reads_elementChars hbrace text.toList
  rw [String.ofList_toList] at hread
  rwa [hchars, helement]

mutual
theorem reads_item (hbrace : delimiter ≠ '\x7d') (hletters : delimiter ∉ ['N', 'U', 'L']) :
    ∀ v : Value, Reads delimiter (itemChars delimiter v) [v.element]
  | .null => reads_null hbrace hletters
  | .array items => reads_array hbrace (reads_items hbrace hletters items)
  | .bool _ | .integer _ | .float _ | .text _ | .bytes _ | .json _ | .date _ | .timestamp _ =>
    reads_item_of_text hbrace rfl

theorem reads_items (hbrace : delimiter ≠ '\x7d') (hletters : delimiter ∉ ['N', 'U', 'L']) :
    ∀ items : List Value, itemsChars delimiter items = [] ∧ Value.elements items = []
      ∨ Reads delimiter (itemsChars delimiter items) (Value.elements items)
  | [] => .inl ⟨rfl, rfl⟩
  | [v] => .inr (reads_item hbrace hletters v)
  | v :: w :: rest => by
    rcases reads_items hbrace hletters (w :: rest) with ⟨-, hnil⟩ | hrest
    · simp [Value.elements] at hnil
    · exact .inr ((reads_item hbrace hletters v).delimited hrest)
end

/-- A text in braces is read as the elements that its inside is read as. -/
theorem read?_braced {cs : List Char} {es : List Element}
    (h : cs = [] ∧ es = [] ∨ Reads delimiter cs es) :
    read? delimiter (String.ofList ('\x7b' :: (cs ++ ['\x7d']))) = some es := by
  have hclosed := run_closed h []
  rw [close, List.reverse_reverse] at hclosed
  rw [read?, String.toList_ofList, List.foldlM_cons]
  show ((cs ++ ['\x7d']).foldlM (step delimiter) (first []) >>= finish?) = some es
  rw [hclosed]
  rfl

/-- The literal of an array is read to its end and gives back the items, of any text and at any
depth. The delimiter may be any character but the closing brace and the letters of NULL. -/
theorem array_literals_read_back (delimiter : Char) (hbrace : delimiter ≠ '\x7d')
    (hletters : delimiter ∉ ['N', 'U', 'L']) (items : List Value) :
    read? delimiter (encode delimiter items) = some (Value.elements items) := by
  have hclosed := run_closed (reads_items hbrace hletters items) []
  rw [read?, encode, String.toList_ofList, itemChars, List.foldlM_cons]
  show ((itemsChars delimiter items ++ ['\x7d']).foldlM (step delimiter) (first [])
    >>= finish?) = _
  rw [hclosed, close, List.reverse_reverse]
  rfl

/-- Empty texts, a text that spells null, marks inside of texts, and empty arrays. -/
theorem array_literals_read_back_nested :
    ',' ≠ '\x7d' ∧ ',' ∉ ['N', 'U', 'L'] ∧
      read? ',' "\x7b\"\",\"Null\",NULL,\x7b\x7d,\x7b\"a,\\\"\x7b\",f\x7d\x7d"
        = some [.text "", .text "Null", .null, .array [], .array [.text "a,\"\x7b", .text "f"]] :=
  ⟨by decide, by decide, array_literals_read_back ',' (by decide) (by decide)
    [.text "", .text "Null", .null, .array [], .array [.text "a,\"\x7b", .bool false]]⟩

end ArrayLiteral

end SqlTree
