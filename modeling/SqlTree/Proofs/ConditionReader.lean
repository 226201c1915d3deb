-- Conditions as SQL reads them. A text is cut into words and parentheses, and these are put
-- together by precedence: NOT binds closer than AND, and AND closer than OR.
import SqlTree.Proofs.Truth

namespace SqlTree

/-- A condition on facts that have names. -/
inductive Condition where
  | fact (name : String)
  | not (c : Condition)
  | and (left right : Condition)
  | or (left right : Condition)
deriving DecidableEq, Repr

namespace Condition

/-- What a condition comes to if the facts come to this. -/
def truth (facts : String → Truth) : Condition → Truth
  | fact name => facts name
  | not c => (c.truth facts).not
  | and l r => (l.truth facts).and (r.truth facts)
  | or l r => (l.truth facts).or (r.truth facts)

/-! ## Words -/

/-- A word or a mark of a condition. -/
inductive Token where
  | name (s : String)
  | and
  | or
  | not
  | opening
  | closing
deriving DecidableEq, Repr

/-- The characters of names and keywords. All that are not ASCII are among them. -/
def isNameChar (c : Char) : Bool := c.isAlphanum || c == '_' || c == '$' || 128 ≤ c.toNat

/-- The characters that a name can begin with. -/
def isNameStart (c : Char) : Bool := isNameChar c && !c.isDigit && c != '$'

/-- The token that a word is. Keywords may have letters of either case. -/
def Token.ofWord? (word : List Char) : Option Token :=
  let lower := word.map Char.toLower
  if lower = ['a', 'n', 'd'] then some .and
  else if lower = ['o', 'r'] then some .or
  else if lower = ['n', 'o', 't'] then some .not
  else if word.head?.any isNameStart then some (.name (String.ofList word))
  else none

/-- The tokens that a character between words stands for. -/
def marks? (c : Char) : Option (List Token) :=
  if c = '(' then some [.opening]
  else if c = ')' then some [.closing]
  else if c.isWhitespace then some []
  else none

/-- Puts a word, of which the characters come in reverse, before tokens. Between two marks there
may be no word. -/
def putWord? (word : List Char) (ts : List Token) : Option (List Token) :=
  if word = [] then some ts else (Token.ofWord? word.reverse).map (· :: ts)

/-- The tokens of a text, of which the characters of an unfinished word have been read. -/
def lexFrom (word : List Char) : List Char → Option (List Token)
  | [] => putWord? word []
  | c :: cs =>
    if isNameChar c then lexFrom (c :: word) cs
    else do
      let marks ← marks? c
      let ts ← lexFrom [] cs
      putWord? word (marks ++ ts)

/-! ## Precedence -/

/-- A condition that is not finished, inside one pair of parentheses. -/
structure Frame where
  /-- What stands before the last OR. -/
  alternatives : Option Condition
  /-- What stands between the last OR and the last AND. -/
  factors : Option Condition
  /-- How many times the next operand is negated. -/
  negations : Nat

namespace Frame

/-- Nothing has been read. -/
def empty : Frame := ⟨none, none, 0⟩

/-- One more negation of the next operand. -/
def negated (f : Frame) : Frame := { f with negations := f.negations + 1 }

end Frame

/-- A condition after so many NOTs. -/
def negate : Nat → Condition → Condition
  | 0, c => c
  | n + 1, c => negate n (.not c)

/-- A condition after a part that may be absent. -/
def join (op : Condition → Condition → Condition) : Option Condition → Condition → Condition
  | none, c => c
  | some before, c => op before c

/-- Where a reader of conditions stands. It has the unfinished conditions outside of the innermost
parentheses. -/
inductive Reading where
  /-- An operand must come. -/
  | before (f : Frame) (outer : List Frame)
  /-- An operand has come: there are alternatives, and after the last OR these factors. -/
  | after (alternatives : Option Condition) (factors : Condition) (outer : List Frame)

namespace Reading

/-- An operand: it is negated at once and then one more factor. -/
def take (f : Frame) (outer : List Frame) (c : Condition) : Reading :=
  after f.alternatives (join .and f.factors (negate f.negations c)) outer

/-- One token further. -/
def step : Reading → Token → Option Reading
  | before f outer, .name s => some (take f outer (.fact s))
  | before f outer, .not => some (before f.negated outer)
  | before f outer, .opening => some (before .empty (f :: outer))
  | after alternatives factors outer, .and =>
    some (before ⟨alternatives, some factors, 0⟩ outer)
  | after alternatives factors outer, .or =>
    some (before ⟨some (join .or alternatives factors), none, 0⟩ outer)
  | after alternatives factors (f :: outer), .closing =>
    some (take f outer (join .or alternatives factors))
  | _, _ => none

/-- The whole condition, if the text may end here. -/
def finish? : Reading → Option Condition
  | after alternatives factors [] => some (join .or alternatives factors)
  | _ => none

end Reading

/-- The condition that a whole text is. -/
def read? (sql : String) : Option Condition := do
  let ts ← lexFrom [] sql.toList
  let reading ← ts.foldlM Reading.step (.before .empty [])
  reading.finish?

/-! ## Cutting texts into words -/

variable {cs ds : List Char} {ts us : List Token}

/-- A text that does not go on with the word before it. -/
def Stops (cs : List Char) : Prop := ∀ c ∈ cs.head?, isNameChar c = false

theorem stops_append (hne : ds ≠ []) (h : Stops ds) (rest : List Char) : Stops (ds ++ rest) := by
  obtain ⟨c, ds, rfl⟩ := List.exists_cons_of_ne_nil hne
  exact h

theorem lexFrom_of_stops {rest : List Char} (h : Stops rest) (word : List Char) :
    lexFrom word rest = (lexFrom [] rest).bind (putWord? word) := by
  cases rest with
  | nil => simp [lexFrom, putWord?]
  | cons c cs =>
    have hc : isNameChar c = false := h c rfl
    unfold lexFrom
    cases marks? c with
    | none => simp [hc]
    | some marks =>
      cases lexFrom [] cs with
      | none => simp [hc]
      | some ts => simp [hc, putWord?]

theorem lexFrom_nameChars (h : cs.all isNameChar = true) (word rest : List Char) :
    lexFrom word (cs ++ rest) = lexFrom (cs.reverse ++ word) rest := by
  induction cs generalizing word with
  | nil => rfl
  | cons c cs ih =>
    rw [List.all_cons, Bool.and_eq_true] at h
    simp [lexFrom, h.1, ih h.2 (c :: word)]

/-- These characters are cut into these tokens, if no word goes on after them. -/
def Lexes (cs : List Char) (ts : List Token) : Prop :=
  ∀ rest, Stops rest → lexFrom [] (cs ++ rest) = (lexFrom [] rest).map (ts ++ ·)

/-- These characters are cut into these tokens, whatever follows. -/
def Leads (cs : List Char) (ts : List Token) : Prop :=
  ∀ rest, lexFrom [] (cs ++ rest) = (lexFrom [] rest).map (ts ++ ·)

theorem lexes_word {t : Token} (hne : cs ≠ []) (h : cs.all isNameChar = true)
    (ht : Token.ofWord? cs = some t) : Lexes cs [t] := by
  intro rest hrest
  rw [lexFrom_nameChars h, List.append_nil, lexFrom_of_stops hrest]
  cases lexFrom [] rest with
  | none => rfl
  | some ts => simp [putWord?, hne, ht]

theorem leads_mark {c : Char} {marks : List Token} (hc : isNameChar c = false)
    (h : marks? c = some marks) : Leads [c] marks := by
  intro rest
  rw [List.singleton_append, lexFrom, hc, h]
  cases lexFrom [] rest with
  | none => rfl
  | some ts => simp [putWord?]

theorem Leads.append_lexes (h : Leads cs ts) (h' : Lexes ds us) :
    Lexes (cs ++ ds) (ts ++ us) := by
  intro rest hrest
  rw [List.append_assoc, h, h' rest hrest, Option.map_map]
  simp [Function.comp_def]

theorem Leads.append (h : Leads cs ts) (h' : Leads ds us) : Leads (cs ++ ds) (ts ++ us) := by
  intro rest
  rw [List.append_assoc, h, h', Option.map_map]
  simp [Function.comp_def]

/-- What begins with a mark can come after a word. -/
theorem Lexes.append_leads (h : Lexes cs ts) (h' : Leads ds us) (hne : ds ≠ [])
    (hstops : Stops ds) : Leads (cs ++ ds) (ts ++ us) := by
  intro rest
  rw [List.append_assoc, h _ (stops_append hne hstops rest), h', Option.map_map]
  simp [Function.comp_def]

theorem Leads.lexes (h : Leads cs ts) : Lexes cs ts := fun rest _ => h rest

theorem stops_blank (cs : List Char) : Stops (' ' :: cs) := by
  intro c hc
  cases hc
  rfl

theorem leads_blank : Leads [' '] [] := leads_mark rfl rfl

/-- A word and a blank. -/
theorem leads_word {t : Token} (hne : cs ≠ []) (h : cs.all isNameChar = true)
    (ht : Token.ofWord? cs = some t) : Leads (cs ++ [' ']) [t] :=
  (lexes_word hne h ht).append_leads leads_blank (List.cons_ne_nil _ _) (stops_blank [])

/-- A keyword between two operands. -/
theorem Lexes.between (h : Lexes cs ts) (t : Token) (word : List Char) (h' : Lexes ds us)
    (hne : word ≠ []) (hword : word.all isNameChar = true)
    (ht : Token.ofWord? word = some t) :
    Lexes (cs ++ ((' ' :: (word ++ [' '])) ++ ds)) (ts ++ (t :: us)) := by
  have hop : Leads (' ' :: (word ++ [' '])) [t] := leads_blank.append (leads_word hne hword ht)
  have hleft := h.append_leads hop (List.cons_ne_nil _ _) (stops_blank _)
  have hboth := hleft.append_lexes h'
  simpa only [List.append_assoc, List.singleton_append] using hboth

/-- What stands in parentheses is cut by itself. -/
theorem Lexes.parenthesized (h : Lexes cs ts) :
    Lexes ('(' :: (cs ++ [')'])) (.opening :: (ts ++ [.closing])) := by
  have hopening : Leads ['('] [.opening] := leads_mark rfl rfl
  have hclosing : Leads [')'] [.closing] := leads_mark rfl rfl
  have hstops : Stops [')'] := by
    intro c hc
    cases hc
    rfl
  have hinside := h.append_leads hclosing (List.cons_ne_nil _ _) hstops
  exact hopening.append_lexes hinside.lexes

/-- A name in lower case that is no keyword. -/
def isLowerName (word : List Char) : Bool :=
  word.head?.any isNameStart && word.all (fun c => isNameChar c && c.toLower == c) &&
    word ∉ [['a', 'n', 'd'], ['o', 'r'], ['n', 'o', 't']]

theorem lexes_lowerName (h : isLowerName cs = true) : Lexes cs [.name (String.ofList cs)] := by
  simp only [isLowerName, Bool.and_eq_true, List.all_eq_true, beq_iff_eq, decide_eq_true_eq,
    List.mem_cons, List.not_mem_nil, or_false, not_or] at h
  obtain ⟨⟨hstart, hchars⟩, hand, hor, hnot⟩ := h
  have hlower : cs.map Char.toLower = cs := by
    calc cs.map Char.toLower = cs.map id := List.map_congr_left fun c hc => (hchars c hc).2
      _ = cs := List.map_id cs
  have hne : cs ≠ [] := by
    intro hnil
    simp [hnil] at hstart
  have hword : cs.all isNameChar = true := List.all_eq_true.mpr fun c hc => (hchars c hc).1
  refine lexes_word hne hword ?_
  simp [Token.ofWord?, hlower, hand, hor, hnot, hstart]

/-! ## Putting operands together -/

/-- What a condition means: what it comes to, by what the facts come to. -/
abbrev Meaning := (String → Truth) → Truth

/-- What a part comes to that may be absent. -/
def truthOr (absent : Truth) (facts : String → Truth) : Option Condition → Truth
  | none => absent
  | some c => c.truth facts

theorem truth_join_and (facts : String → Truth) (before : Option Condition) (c : Condition) :
    (join .and before c).truth facts = (truthOr .holds facts before).and (c.truth facts) := by
  cases before with
  | none => simp [join, truthOr]
  | some b => rfl

theorem truth_join_or (facts : String → Truth) (before : Option Condition) (c : Condition) :
    (join .or before c).truth facts = (truthOr .fails facts before).or (c.truth facts) := by
  cases before with
  | none => simp [join, truthOr]
  | some b => rfl

/-- The tokens are one operand with this meaning, wherever an operand must come. -/
def ReadsOperand (ts : List Token) (m : Meaning) : Prop :=
  ∀ f outer, ∃ c, (∀ facts, c.truth facts = m facts) ∧
    ts.foldlM Reading.step (.before f outer) = some (.take f outer c)

/-- The tokens are factors with this meaning together, after any factors that are there. -/
def ReadsFactors (ts : List Token) (m : Meaning) : Prop :=
  ∀ alternatives factors outer, ∃ c,
    (∀ facts, c.truth facts = (truthOr .holds facts factors).and (m facts)) ∧
    ts.foldlM Reading.step (.before ⟨alternatives, factors, 0⟩ outer) =
      some (.after alternatives c outer)

/-- The tokens are alternatives with this meaning together, after any alternatives that are
there. -/
def ReadsAlternatives (ts : List Token) (m : Meaning) : Prop :=
  ∀ alternatives outer, ∃ alternatives' c,
    (∀ facts, (join .or alternatives' c).truth facts =
      (truthOr .fails facts alternatives).or (m facts)) ∧
    ts.foldlM Reading.step (.before ⟨alternatives, none, 0⟩ outer) =
      some (.after alternatives' c outer)

variable {m m' : Meaning}

theorem ReadsOperand.factors (h : ReadsOperand ts m) : ReadsFactors ts m := by
  intro alternatives factors outer
  obtain ⟨c, hc, hrun⟩ := h ⟨alternatives, factors, 0⟩ outer
  refine ⟨join .and factors c, ?_, hrun⟩
  intro facts
  rw [truth_join_and, hc]

theorem ReadsFactors.alternatives (h : ReadsFactors ts m) : ReadsAlternatives ts m := by
  intro alternatives outer
  obtain ⟨c, hc, hrun⟩ := h alternatives none outer
  refine ⟨alternatives, c, ?_, hrun⟩
  intro facts
  rw [truth_join_or, hc, truthOr, Truth.holds_and]

theorem readsOperand_name (s : String) : ReadsOperand [.name s] fun facts => facts s := by
  intro f outer
  exact ⟨.fact s, fun facts => rfl, rfl⟩

/-- A negation belongs to the next operand alone. -/
theorem ReadsOperand.not (h : ReadsOperand ts m) :
    ReadsOperand (.not :: ts) fun facts => (m facts).not := by
  intro f outer
  obtain ⟨c, hc, hrun⟩ := h f.negated outer
  refine ⟨.not c, ?_, ?_⟩
  · intro facts
    rw [truth, hc]
  · rw [List.foldlM_cons]
    exact hrun

theorem ReadsAlternatives.parenthesized (h : ReadsAlternatives ts m) :
    ReadsOperand (.opening :: (ts ++ [.closing])) m := by
  intro f outer
  obtain ⟨alternatives, c, hc, hrun⟩ := h none (f :: outer)
  refine ⟨join .or alternatives c, ?_, ?_⟩
  · intro facts
    rw [hc, truthOr, Truth.fails_or]
  · have hopening : Reading.step (.before f outer) .opening =
        some (.before ⟨none, none, 0⟩ (f :: outer)) := rfl
    rw [List.foldlM_cons, hopening]
    simp only [Option.bind_eq_bind, Option.bind_some, List.foldlM_append, hrun]
    rfl

theorem ReadsFactors.and (h : ReadsFactors ts m) (h' : ReadsFactors us m') :
    ReadsFactors (ts ++ .and :: us) fun facts => (m facts).and (m' facts) := by
  intro alternatives factors outer
  obtain ⟨c, hc, hrun⟩ := h alternatives factors outer
  -- after AND the factors read so far are those that the others come after
  obtain ⟨c', hc', hrun'⟩ := h' alternatives (some c) outer
  refine ⟨c', ?_, ?_⟩
  · intro facts
    rw [hc', truthOr, hc, Truth.and_assoc]
  · rw [List.foldlM_append, hrun]
    exact hrun'

theorem ReadsAlternatives.or (h : ReadsAlternatives ts m) (h' : ReadsAlternatives us m') :
    ReadsAlternatives (ts ++ .or :: us) fun facts => (m facts).or (m' facts) := by
  intro alternatives outer
  obtain ⟨left, c, hc, hrun⟩ := h alternatives outer
  -- OR ends the last factors, and they become one more alternative
  obtain ⟨right, c', hc', hrun'⟩ := h' (some (join .or left c)) outer
  refine ⟨right, c', ?_, ?_⟩
  · intro facts
    rw [hc', truthOr, hc, Truth.or_assoc]
  · rw [List.foldlM_append, hrun]
    exact hrun'

/-- A text that is cut into alternatives is read to its end as a condition of their meaning. -/
theorem read?_of_alternatives {sql : String} (hlex : Lexes sql.toList ts)
    (hreads : ReadsAlternatives ts m) :
    ∃ c, read? sql = some c ∧ ∀ facts, c.truth facts = m facts := by
  obtain ⟨alternatives, c, hc, hrun⟩ := hreads none []
  have hts : lexFrom [] sql.toList = some ts := by
    have hall := hlex [] (by simp [Stops])
    simpa [lexFrom, putWord?] using hall
  have hempty : (Reading.before Frame.empty []) = .before ⟨none, none, 0⟩ [] := rfl
  refine ⟨join .or alternatives c, ?_, ?_⟩
  · simp [read?, hts, hempty, hrun, Reading.finish?]
  · intro facts
    rw [hc, truthOr, Truth.fails_or]

example : read? "not a AND b or (c OR d) AND e" =
    some (.or (.and (.not (.fact "a")) (.fact "b"))
      (.and (.or (.fact "c") (.fact "d")) (.fact "e"))) := by
  decide

end Condition

end SqlTree
