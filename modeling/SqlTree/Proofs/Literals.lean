-- Names and literals as a reader of SQL finds them. What stands in quotes is read back exactly, and
-- reading stops at the quote that closes it, whatever follows. A literal shows by its first
-- character whether it is NULL, a truth value, a number or in quotes.
import SqlTree.Dialect
import SqlTree.Proofs.JsonPrinting
import SqlTree.Proofs.ShortestDigits

namespace SqlTree

/-! ## Reading quotes -/

namespace Quoting

/-- Reads on inside of quotes: what stands before the quote that closes them, and what stands behind
it. Two quotes together are one that belongs to the text. -/
def readInside (quote : Char) : List Char → Option (List Char × List Char)
  | [] => none
  | [c] => if c = quote then some ([], []) else none
  | c :: c' :: cs =>
    if c = quote then
      if c' = quote then (readInside quote cs).map fun (inner, rest) => (quote :: inner, rest)
      else some ([], c' :: cs)
    else (readInside quote (c' :: cs)).map fun (inner, rest) => (c :: inner, rest)

/-- Reads a text that begins with a quote: what is in the quotes, and what follows them. -/
def read? (quote : Char) (text : String) : Option (String × String) :=
  match text.toList with
  | [] => none
  | c :: cs =>
    if c = quote then
      (readInside quote cs).map fun (inner, rest) => (String.ofList inner, String.ofList rest)
    else none

/-- A text with every quote in it doubled. -/
def doubled (quote : Char) (cs : List Char) : List Char :=
  cs.flatMap fun c => if c == quote then [quote, quote] else [c]

variable {quote c : Char} {cs inner rest : List Char}

theorem enclose_eq (quote : Char) (cs : List Char) :
    enclose quote cs = quote :: (doubled quote cs ++ [quote]) := rfl

theorem doubled_cons (quote c : Char) (cs : List Char) :
    doubled quote (c :: cs) =
      if c = quote then quote :: quote :: doubled quote cs else c :: doubled quote cs := by
  unfold doubled
  rw [List.flatMap_cons]
  by_cases h : c = quote
  · simp [h]
  · simp [h]

theorem readInside_of_ne (h : c ≠ quote) :
    readInside quote (c :: cs) =
      (readInside quote cs).map fun (inner, rest) => (c :: inner, rest) := by
  cases cs with
  | nil => simp [readInside, h]
  | cons c' cs => simp [readInside, h]

theorem readInside_end (h : rest.head? ≠ some quote) :
    readInside quote (quote :: rest) = some ([], rest) := by
  cases rest with
  | nil => simp [readInside]
  | cons c rest =>
    have hc : c ≠ quote := by simpa using h
    simp [readInside, hc]

theorem readInside_doubled (h : rest.head? ≠ some quote) :
    readInside quote (doubled quote inner ++ quote :: rest) = some (inner, rest) := by
  induction inner with
  | nil => exact readInside_end h
  | cons c inner ih =>
    rw [doubled_cons]
    by_cases hc : c = quote
    · simp [hc, readInside, ih]
    · rw [if_neg hc, List.cons_append, readInside_of_ne hc, ih]
      rfl

/-- What has been read is the text up to the quote that closes it, with its quotes doubled. -/
theorem eq_of_readInside (h : readInside quote cs = some (inner, rest)) :
    cs = doubled quote inner ++ quote :: rest ∧ rest.head? ≠ some quote := by
  fun_induction readInside quote cs generalizing inner rest with
  | case1 => cases h
  | case2 =>
    cases h
    exact ⟨rfl, by simp⟩
  | case3 => cases h
  | case4 cs ih =>
    obtain ⟨⟨inner, rest⟩, hread, heq⟩ := Option.map_eq_some_iff.mp h
    cases heq
    obtain ⟨rfl, hrest⟩ := ih hread
    exact ⟨by simp [doubled_cons], hrest⟩
  | case5 c' cs hc' =>
    cases h
    exact ⟨rfl, by simpa using hc'⟩
  | case6 c c' cs hc ih =>
    obtain ⟨⟨inner, rest⟩, hread, heq⟩ := Option.map_eq_some_iff.mp h
    cases heq
    obtain ⟨hcs, hrest⟩ := ih hread
    exact ⟨by simp [doubled_cons, hc, hcs], hrest⟩

/-- Exactly a text in quotes is read, if no further quote follows it. -/
theorem read?_eq_some {text s rest : String} :
    read? quote text = some (s, rest) ↔
      text = String.ofList (enclose quote s.toList) ++ rest ∧ rest.toList.head? ≠ some quote := by
  have htext : text = String.ofList (enclose quote s.toList) ++ rest ↔
      text.toList = quote :: (doubled quote s.toList ++ quote :: rest.toList) := by
    rw [← String.toList_inj, String.toList_append, String.toList_ofList, enclose_eq]
    simp
  rw [htext]
  unfold read?
  constructor
  · intro h
    split at h
    · cases h
    · rename_i c cs hcs
      split at h
      · rename_i hc
        obtain ⟨⟨inner, after⟩, hread, heq⟩ := Option.map_eq_some_iff.mp h
        cases heq
        obtain ⟨rfl, hrest⟩ := eq_of_readInside hread
        simpa [hcs, hc] using hrest
      · cases h
  · rintro ⟨h, hrest⟩
    rw [h]
    simp [readInside_doubled hrest]

end Quoting

/-! ## Bytes in hexadecimal -/

namespace Text

/-- Whether a character is a hexadecimal digit in lower case. -/
def isLowerHexDigit (c : Char) : Bool := isDigit c || ('a' ≤ c && c ≤ 'f')

/-- The bytes that hexadecimal digits stand for, two digits for each. -/
def readHex? : List Char → Option (List UInt8)
  | [] => some []
  | [_] => none
  | high :: low :: digits => do
    let h ← hexValue? high
    let l ← hexValue? low
    return UInt8.ofNat (16 * h + l) :: (← readHex? digits)

theorem isLowerHexDigit_digitChar : ∀ n < 16, isLowerHexDigit (Nat.digitChar n) = true := by decide

theorem byte_halves_lt (b : UInt8) : b.toNat / 16 < 16 ∧ b.toNat % 16 < 16 := by
  have hb := b.toNat_lt
  omega

theorem isLowerHexDigit_of_mem {data : List UInt8} {c : Char} (h : c ∈ data.flatMap hexByte) :
    isLowerHexDigit c = true := by
  obtain ⟨b, -, hc⟩ := List.mem_flatMap.mp h
  obtain ⟨hhigh, hlow⟩ := byte_halves_lt b
  simp only [hexByte, List.mem_cons, List.not_mem_nil, or_false] at hc
  rcases hc with rfl | rfl
  · exact isLowerHexDigit_digitChar _ hhigh
  · exact isLowerHexDigit_digitChar _ hlow

theorem length_flatMap_hexByte (data : List UInt8) :
    (data.flatMap hexByte).length = 2 * data.length := by
  induction data with
  | nil => rfl
  | cons b data ih =>
    simp only [List.flatMap_cons, List.length_append, ih, hexByte, List.length_cons,
      List.length_nil]
    omega

theorem readHex?_flatMap_hexByte (data : List UInt8) :
    readHex? (data.flatMap hexByte) = some data := by
  induction data with
  | nil => rfl
  | cons b data ih =>
    obtain ⟨hhigh, hlow⟩ := byte_halves_lt b
    have hhalves : 16 * (b.toNat / 16) + b.toNat % 16 = b.toNat := by omega
    rw [List.flatMap_cons, hexByte, List.cons_append, List.cons_append, List.nil_append, readHex?,
      Json.hexValue?_digitChar _ hhigh, Json.hexValue?_digitChar _ hlow, ih]
    simp only [Option.bind_eq_bind, Option.bind_some, hhalves, UInt8.ofNat_toNat]
    rfl

end Text

/-! ## The forms of literals -/

/-- What a literal can be. -/
inductive LiteralForm where
  | null
  | truth
  | number
  | quoted
deriving DecidableEq, Repr

namespace LiteralForm

/-- The texts of a form. -/
def Shows : LiteralForm → String → Prop
  | null, s => s = "NULL"
  | truth, s => s = "TRUE" ∨ s = "FALSE"
  | number, s => Text.IsDecimal s.toList
  | quoted, s => ∃ inner, s = Quoting.string inner

/-- The characters that a form begins with. -/
def starts : LiteralForm → Char → Bool
  | null, c => c == 'N'
  | truth, c => c == 'T' || c == 'F'
  | number, c => Text.isNumeralChar c
  | quoted, c => c == '\''

variable {f g : LiteralForm} {s : String}

theorem exists_first (h : f.Shows s) : ∃ c cs, s.toList = c :: cs ∧ f.starts c = true := by
  cases f with
  | null =>
    rw [show s = "NULL" from h]
    exact ⟨'N', _, rfl, rfl⟩
  | truth =>
    rcases h with rfl | rfl
    · exact ⟨'T', _, rfl, rfl⟩
    · exact ⟨'F', _, rfl, rfl⟩
  | number =>
    have hdecimal : Text.IsDecimal s.toList := h
    obtain ⟨c, cs, hcs⟩ := List.exists_cons_of_ne_nil hdecimal.ne_nil
    exact ⟨c, cs, hcs, hdecimal.isNumeralChar c (by simp [hcs])⟩
  | quoted =>
    obtain ⟨inner, rfl⟩ := h
    exact ⟨'\'', _, by rw [Quoting.string, String.toList_ofList, Quoting.enclose_eq], rfl⟩

/-- No two forms begin alike. -/
theorem eq_of_starts {c : Char} (hf : f.starts c = true) (hg : g.starts c = true) : f = g := by
  have hletter (h : Text.isNumeralChar c = true) : c ≠ 'N' ∧ c ≠ 'T' ∧ c ≠ 'F' ∧ c ≠ '\'' := by
    refine ⟨?_, ?_, ?_, ?_⟩ <;> rintro rfl <;> cases h
  cases f <;> cases g <;> simp_all [starts]

theorem eq_of_shows (hf : f.Shows s) (hg : g.Shows s) : f = g := by
  obtain ⟨c, cs, hcs, hc⟩ := exists_first hf
  obtain ⟨c', cs', hcs', hc'⟩ := exists_first hg
  rw [hcs] at hcs'
  cases hcs'
  exact eq_of_starts hc hc'

end LiteralForm

namespace Value

/-- The form of a value's literal: integers and finite doubles are numbers, and all that is neither
null nor a truth value nor a number is in quotes. -/
def literalForm : Value → LiteralForm
  | null => .null
  | bool _ => .truth
  | integer _ => .number
  | float d => if d.isFinite then .number else .quoted
  | _ => .quoted

/-- What a literal in quotes has between them: the text of the value, or the literal of the array.
-/
def quotedText? : Value → Option String
  | array items => some (ArrayLiteral.encode ',' items)
  | v => v.toText?

theorem literalForm_eq_null {v : Value} : v.literalForm = .null ↔ v = .null := by
  cases v with
  | float d => rw [literalForm]; split <;> simp
  | _ => simp [literalForm]

theorem literalForm_eq_truth {v : Value} : v.literalForm = .truth ↔ ∃ b, v = .bool b := by
  cases v with
  | float d => rw [literalForm]; split <;> simp
  | _ => simp [literalForm]

theorem literalForm_eq_number {v : Value} :
    v.literalForm = .number ↔ (∃ n, v = .integer n) ∨ ∃ d, v = .float d ∧ d.isFinite = true := by
  cases v with
  | float d => rw [literalForm]; split <;> simp_all
  | _ => simp [literalForm]

theorem literal_of_number {v : Value} (h : v.literalForm = .number) :
    v.toText? = some v.literal ∧ Text.IsDecimal v.literal.toList := by
  rcases literalForm_eq_number.mp h with ⟨n, rfl⟩ | ⟨d, rfl, hfinite⟩
  · refine ⟨rfl, ?_⟩
    rw [literal, integerText, String.toList_ofList]
    exact Text.isDecimal_intDigits _
  · rw [literal, if_pos hfinite]
    refine ⟨rfl, ?_⟩
    rw [Double.text_of_isFinite hfinite, String.toList_ofList]
    exact Double.isDecimal_plain hfinite

theorem literal_of_quoted {v : Value} (h : v.literalForm = .quoted) :
    ∃ s, v.quotedText? = some s ∧ v.literal = Quoting.string s := by
  cases v with
  | null | bool _ | integer _ => cases h
  | text _ | bytes _ | json _ | date _ | timestamp _ | array _ => exact ⟨_, rfl, rfl⟩
  | float d =>
    refine ⟨d.text, rfl, ?_⟩
    rw [literal, if_neg]
    intro hfinite
    rw [literalForm, if_pos hfinite] at h
    cases h

/-- A literal has the form that its value asks for. -/
theorem shows_literal (v : Value) : v.literalForm.Shows v.literal := by
  cases hform : v.literalForm with
  | null => rw [literalForm_eq_null.mp hform]; rfl
  | truth =>
    obtain ⟨b, rfl⟩ := literalForm_eq_truth.mp hform
    cases b with
    | true => exact .inl rfl
    | false => exact .inr rfl
  | number => exact (literal_of_number hform).2
  | quoted =>
    obtain ⟨s, -, hs⟩ := literal_of_quoted hform
    exact ⟨s, hs⟩

/-- A literal has no other form. -/
theorem shows_literal_iff {v : Value} {f : LiteralForm} :
    f.Shows v.literal ↔ v.literalForm = f := by
  constructor
  · exact LiteralForm.eq_of_shows v.shows_literal
  · rintro rfl
    exact v.shows_literal

theorem literal_eq_null {v : Value} : v.literal = "NULL" ↔ v = .null :=
  (shows_literal_iff (f := .null)).trans literalForm_eq_null

/-- A literal is TRUE or FALSE for the truth values alone. -/
theorem literal_eq_truth {v : Value} (b : Bool) :
    v.literal = (if b then "TRUE" else "FALSE") ↔ v = .bool b := by
  constructor
  · intro h
    have hshows : LiteralForm.truth.Shows v.literal := by
      rw [h]
      cases b with
      | true => exact .inl rfl
      | false => exact .inr rfl
    obtain ⟨b', rfl⟩ := literalForm_eq_truth.mp (shows_literal_iff.mp hshows)
    by_cases hb : b' = b
    · rw [hb]
    · rw [Bool.eq_not_of_ne hb] at h
      cases b <;> exact absurd h (by decide)
  · rintro rfl
    rfl

end Value

/-! ## The law -/

/-- A reader of names in quotes accepts exactly the quoted names, and gives back the name and what
follows it; so does a reader of strings. The literals of null, of the truth values, of integers and
of finite doubles are NULL, TRUE, FALSE and decimal numbers, and no others are. Integers and doubles
are read back from theirs. All other literals are strings that read back as the text of the value or
of the array, and of bytes that text has two digits for each. -/
theorem Quoting.quoted_texts_are_read_back :
    (∀ (d : Dialect) (text name rest : String),
      Quoting.read? d.identifierQuote text = some (name, rest) ↔
        text = d.quoteIdentifier name ++ rest ∧ rest.toList.head? ≠ some d.identifierQuote) ∧
    (∀ text s rest : String, Quoting.read? '\'' text = some (s, rest) ↔
      text = Quoting.string s ++ rest ∧ rest.toList.head? ≠ some '\'') ∧
    (∀ v : Value,
      (v.literal = "NULL" ↔ v = .null) ∧
      (v.literal = "TRUE" ↔ v = .bool true) ∧
      (v.literal = "FALSE" ↔ v = .bool false) ∧
      (Text.IsDecimal v.literal.toList ↔
        (∃ n, v = .integer n) ∨ ∃ x, v = .float x ∧ x.isFinite = true) ∧
      (Text.IsDecimal v.literal.toList → v.toText? = some v.literal) ∧
      ((∃ s, v.literal = Quoting.string s) ↔ v.literalForm = .quoted) ∧
      (v.literalForm = .quoted → ∃ s, v.quotedText? = some s ∧
        ∀ rest : String, rest.toList.head? ≠ some '\'' →
          Quoting.read? '\'' (v.literal ++ rest) = some (s, rest))) ∧
    (∀ n : Int64, Text.SignedNumeral (Value.integer n).literal.toList n.toInt) ∧
    (∀ x : Double, x.isFinite = true → Double.read? (Value.float x).literal.toList = some x) ∧
    (∀ data : List UInt8, ∃ digits,
      (Value.bytes data).quotedText? = some (String.ofList ('\\' :: 'x' :: digits)) ∧
      digits.length = 2 * data.length ∧ (∀ c ∈ digits, Text.isLowerHexDigit c = true) ∧
      Text.readHex? digits = some data) := by
  refine ⟨fun d text name rest => read?_eq_some, fun text s rest => read?_eq_some, ?_, ?_, ?_, ?_⟩
  · intro v
    refine ⟨Value.literal_eq_null, Value.literal_eq_truth true, Value.literal_eq_truth false, ?_,
      ?_, Value.shows_literal_iff (f := .quoted), ?_⟩
    · exact (Value.shows_literal_iff (f := .number)).trans Value.literalForm_eq_number
    · intro hdecimal
      exact (Value.literal_of_number ((Value.shows_literal_iff (f := .number)).mp hdecimal)).1
    · intro hquoted
      obtain ⟨s, hs, hliteral⟩ := Value.literal_of_quoted hquoted
      refine ⟨s, hs, fun rest hrest => read?_eq_some.mpr ⟨?_, hrest⟩⟩
      rw [hliteral]
      rfl
  · intro n
    rw [Value.literal, integerText, String.toList_ofList]
    exact Text.signedNumeral_intDigits _
  · intro x hfinite
    rw [Value.literal, if_pos hfinite, Double.text_of_isFinite hfinite, String.toList_ofList]
    exact Double.read?_plain hfinite
  · intro data
    exact ⟨data.flatMap Text.hexByte, rfl, Text.length_flatMap_hexByte data,
      fun _ => Text.isLowerHexDigit_of_mem, Text.readHex?_flatMap_hexByte data⟩

/-- A name with the quote of its dialect at both ends, a string before more text, a double that is
no number, an array of a quote and a null, and the least double above zero. -/
theorem Quoting.quoted_texts_are_read_back_with_quotes_at_the_ends :
    let bars : Dialect := ⟨"bars", '|', .question, .standard⟩
    let nan : Value := .float (.nan false)
    let array : Value := .array [.text "'", .null]
    Quoting.read? '|' (bars.quoteIdentifier "|a|" ++ ".b") = some ("|a|", ".b") ∧
    Quoting.read? '\'' (Quoting.string "it's" ++ " OR ''") = some ("it's", " OR ''") ∧
    Quoting.read? '\'' (nan.literal ++ ")") = some ("NaN", ")") ∧
    Quoting.read? '\'' (array.literal ++ "") = some ("\x7b',NULL\x7d", "") ∧
    Double.read? (Value.float ⟨1⟩).literal.toList = some ⟨1⟩ := by
  intro bars nan array
  obtain ⟨hnames, hstrings, hliterals, -, hdoubles, -⟩ := Quoting.quoted_texts_are_read_back
  have hquoted (v : Value) (hv : v.literalForm = .quoted) (s : String) (hs : v.quotedText? = some s)
      (rest : String) (hrest : rest.toList.head? ≠ some '\'') :
      Quoting.read? '\'' (v.literal ++ rest) = some (s, rest) := by
    obtain ⟨-, -, -, -, -, -, hread⟩ := hliterals v
    obtain ⟨s', hs', hread⟩ := hread hv
    rw [hs] at hs'
    cases hs'
    exact hread rest hrest
  refine ⟨(hnames bars _ _ _).mpr ⟨rfl, by decide⟩, (hstrings _ _ _).mpr ⟨rfl, by decide⟩,
    hquoted nan rfl _ rfl _ (by decide), hquoted array rfl _ rfl _ (by decide),
    hdoubles ⟨1⟩ (by decide)⟩

end SqlTree
