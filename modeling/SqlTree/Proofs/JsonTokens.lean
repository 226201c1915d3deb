-- The tokens of JSON text, written in any way that JSON allows: strings with escapes, numerals with
-- fraction and exponent, and white space around every token. They read back as the tokens.
import Mathlib.Data.List.Chain
import SqlTree.Json.Token

namespace SqlTree.Json

/-! ## Strings -/

/-- The letters of the one-letter escapes, with the characters they stand for. -/
def letterEscapes : List (Char × Char) :=
  [('"', '"'), ('\\', '\\'), ('/', '/'), ('b', '\x08'), ('f', '\x0c'), ('n', '\n'), ('r', '\r'),
    ('t', '\t')]

/-- Four hexadecimal digits and the number they denote. -/
inductive IsUnit : List Char → Nat → Prop
  | digits {a b c d : Char} {i j k l : Nat} :
      Text.hexValue? a = some i → Text.hexValue? b = some j → Text.hexValue? c = some k →
        Text.hexValue? d = some l →
          IsUnit [a, b, c, d] (16 * (16 * (16 * i + j) + k) + l)

/-- The ways to write a character in a string: as it is, unless it is a quote, a backslash or a
control; with a letter after a backslash; and by one or two sixteen-bit units. -/
inductive SpellsChar (c : Char) : List Char → Prop
  | plain : 0x20 ≤ c.toNat → c ≠ '"' → c ≠ '\\' → SpellsChar c [c]
  | letter {e : Char} : (e, c) ∈ letterEscapes → SpellsChar c ['\\', e]
  | unit {ds : List Char} : IsUnit ds c.toNat → SpellsChar c ('\\' :: 'u' :: ds)
  | pair {hs ls : List Char} {high low : Nat} : IsUnit hs high → IsUnit ls low →
      0xd800 ≤ high → high < 0xdc00 → 0xdc00 ≤ low → low < 0xe000 →
        c.toNat = 0x10000 + (high - 0xd800) * 0x400 + (low - 0xdc00) →
          SpellsChar c ('\\' :: 'u' :: (hs ++ '\\' :: 'u' :: ls))

/-- The ways to write the characters of a string one after another. -/
inductive SpellsChars : List Char → List Char → Prop
  | nil : SpellsChars [] []
  | cons {c : Char} {cs text rest : List Char} :
      SpellsChar c cs → SpellsChars text rest → SpellsChars (c :: text) (cs ++ rest)

/-! ## Numbers -/

/-- The text of an exponent after its mark, if there is one. -/
def exponentChars (mark : Char) : Option (List Char) → List Char
  | none => []
  | some e => mark :: e

/-- The text of an unsigned numeral, with a mark before its exponent. -/
def numeralChars (mark : Char) (m : Double.Numeral) : List Char :=
  m.whole ++ ((if m.hasPoint then '.' :: m.fraction else []) ++ exponentChars mark m.exponent)

/-- The ways to write a number: an optional minus sign, digits, an optional point with digits and an
optional exponent, which together denote it. -/
structure SpellsNumber (n : Number) (negative : Bool) (m : Double.Numeral) (mark : Char) :
    Prop where
  whole : m.whole.all Text.isDigit = true
  fraction : m.fraction.all Text.isDigit = true
  point : m.hasPoint = false → m.fraction = []
  mark : mark = 'e' ∨ mark = 'E'
  denotes : Number.ofNumeral? negative m = some n

/-! ## Tokens -/

/-- The ways to write a token. -/
inductive Token.Spells : Token → List Char → Prop
  | openArray : Spells .openArray ['[']
  | closeArray : Spells .closeArray [']']
  | openObject : Spells .openObject ['\x7b']
  | closeObject : Spells .closeObject ['\x7d']
  | comma : Spells .comma [',']
  | colon : Spells .colon [':']
  | nullWord : Spells .null ['n', 'u', 'l', 'l']
  | trueWord : Spells (.bool true) ['t', 'r', 'u', 'e']
  | falseWord : Spells (.bool false) ['f', 'a', 'l', 's', 'e']
  | number {n : Number} {negative : Bool} {m : Double.Numeral} {mark : Char} :
      SpellsNumber n negative m mark →
        Spells (.number n) ((if negative then ['-'] else []) ++ numeralChars mark m)
  | string {s : String} {cs : List Char} :
      SpellsChars s.toList cs → Spells (.string s) ('"' :: (cs ++ ['"']))

/-- The texts that are made of these tokens, with any white space before, between and after them. -/
inductive IsLayout : List Token → List Char → Prop
  | nil {gap : List Char} : gap.all isGap = true → IsLayout [] gap
  | cons {t : Token} {ts : List Token} {gap cs rest : List Char} :
      gap.all isGap = true → t.Spells cs → IsLayout ts rest →
        IsLayout (t :: ts) (gap ++ (cs ++ rest))

/-- Whether a character of a string may stand for itself. -/
def isUnescaped (c : Char) : Bool := 0x20 ≤ c.toNat && c != '"' && c != '\\'

theorem SpellsChars.plain {cs : List Char} (h : cs.all isUnescaped = true) : SpellsChars cs cs := by
  induction cs with
  | nil => exact .nil
  | cons c cs ih =>
    obtain ⟨⟨⟨hcontrol, hquote⟩, hbackslash⟩, hcs⟩ :
        ((0x20 ≤ c.toNat ∧ c ≠ '"') ∧ c ≠ '\\') ∧ cs.all isUnescaped = true := by
      simpa [isUnescaped] using h
    exact .cons (.plain hcontrol hquote hbackslash) (ih hcs)

theorem IsLayout.gap {c : Char} {ts : List Token} {cs : List Char} (hc : isGap c = true)
    (h : IsLayout ts cs) : IsLayout ts (c :: cs) := by
  cases h with
  | nil hgap => exact .nil (by simp [hc, hgap])
  | @cons t ts gap cs rest hgap ht hrest =>
    have hmore : (c :: gap).all isGap = true := by simp [hc, hgap]
    exact .cons hmore ht hrest

theorem IsLayout.token {t : Token} {ts : List Token} {cs rest : List Char} (ht : t.Spells cs)
    (h : IsLayout ts rest) : IsLayout (t :: ts) (cs ++ rest) := by
  have hnone : ([] : List Char).all isGap = true := rfl
  exact .cons hnone ht h

/-- Whether a token has to end before another such token may begin. -/
def Token.isSolid : Token → Bool
  | .null | .bool _ | .number _ => true
  | _ => false

/-- Two tokens that may touch. -/
def Token.MayTouch (a b : Token) : Prop := a.isSolid = false ∨ b.isSolid = false

/-! ## Strings read back -/

theorem lexFrom_gap {gap : List Char} (h : gap.all isGap = true) (done : List Token)
    (rest : List Char) : lexFrom .between done (gap ++ rest) = lexFrom .between done rest := by
  induction gap with
  | nil => rfl
  | cons c gap ih =>
    obtain ⟨hc, hgap⟩ : isGap c = true ∧ gap.all isGap = true := by simpa using h
    rw [List.cons_append, lexFrom, Lexing.step, stepBetween, if_pos hc]
    exact ih hgap

/-- The digits of a unit lead from its start to its end. -/
theorem lexFrom_unit {ds : List Char} {value : Nat} (h : IsUnit ds value) (read : List Char)
    (high : Option Nat) (done : List Token) (rest : List Char) {state : Lexing}
    (hfinish : finishUnit read high value = some state) :
    lexFrom (.unit read high 0 0) done (ds ++ rest) = lexFrom state done rest := by
  cases h with
  | digits ha hb hc hd =>
    simp [lexFrom, Lexing.step, ha, hb, hc, hd, hfinish]

theorem not_surrogate (c : Char) : c.toNat < 0xd800 ∨ 0xe000 ≤ c.toNat := by
  have hvalid : c.toNat < 0xd800 ∨ 0xdfff < c.toNat ∧ c.toNat < 0x110000 := c.valid
  omega

theorem finishUnit_char (c : Char) (read : List Char) :
    finishUnit read none c.toNat = some (.string (c :: read)) := by
  have hc := not_surrogate c
  have hhigh : (decide (0xd800 ≤ c.toNat) && decide (c.toNat < 0xdc00)) = false := by
    simp; omega
  have hlow : (decide (0xdc00 ≤ c.toNat) && decide (c.toNat < 0xe000)) = false := by
    simp; omega
  simp [finishUnit, hhigh, hlow, Char.ofNat_toNat]

theorem finishUnit_high {high : Nat} (hge : 0xd800 ≤ high) (hlt : high < 0xdc00)
    (read : List Char) : finishUnit read none high = some (.lowBackslash read high) := by
  simp [finishUnit, hge, hlt]

theorem finishUnit_low {c : Char} {high low : Nat} (hge : 0xdc00 ≤ low) (hlt : low < 0xe000)
    (hc : c.toNat = 0x10000 + (high - 0xd800) * 0x400 + (low - 0xdc00)) (read : List Char) :
    finishUnit read (some high) low = some (.string (c :: read)) := by
  simp [finishUnit, hge, hlt, ← hc, Char.ofNat_toNat]

theorem lexFrom_char {c : Char} {cs : List Char} (h : SpellsChar c cs) (read : List Char)
    (done : List Token) (rest : List Char) :
    lexFrom (.string read) done (cs ++ rest) = lexFrom (.string (c :: read)) done rest := by
  cases h with
  | plain hcontrol hquote hbackslash =>
    have hc : ¬ c.toNat < 0x20 := by omega
    simp [lexFrom, Lexing.step, hquote, hbackslash, hc]
  | letter h =>
    simp only [letterEscapes, List.mem_cons, Prod.mk.injEq, List.not_mem_nil, or_false] at h
    rcases h with ⟨rfl, rfl⟩ | ⟨rfl, rfl⟩ | ⟨rfl, rfl⟩ | ⟨rfl, rfl⟩ | ⟨rfl, rfl⟩ | ⟨rfl, rfl⟩ |
      ⟨rfl, rfl⟩ | ⟨rfl, rfl⟩ <;> rfl
  | unit hunit => exact lexFrom_unit hunit read none done rest (finishUnit_char c read)
  | @pair hs ls high low hhigh hlow hge hlt hge' hlt' hc =>
    have hfirst := lexFrom_unit hhigh read none done ('\\' :: 'u' :: (ls ++ rest))
      (finishUnit_high hge hlt read)
    have hsecond := lexFrom_unit hlow read (some high) done rest
      (finishUnit_low hge' hlt' hc read)
    simp only [List.cons_append, List.append_assoc]
    exact hfirst.trans hsecond

theorem lexFrom_chars {text cs : List Char} (h : SpellsChars text cs) (read : List Char)
    (done : List Token) (rest : List Char) :
    lexFrom (.string read) done (cs ++ rest) =
      lexFrom (.string (text.reverse ++ read)) done rest := by
  induction h generalizing read with
  | nil => rfl
  | cons hc _ ih => rw [List.append_assoc, lexFrom_char hc, ih, List.reverse_cons,
      List.append_assoc, List.singleton_append]

theorem lexFrom_string {s : String} {cs : List Char} (h : SpellsChars s.toList cs)
    (done : List Token) (rest : List Char) :
    lexFrom .between done ('"' :: (cs ++ ['"']) ++ rest) =
      lexFrom .between (.string s :: done) rest := by
  have hbody := lexFrom_chars h [] done ('"' :: rest)
  have hclose : lexFrom (.string (s.toList.reverse ++ [])) done ('"' :: rest) =
      lexFrom .between (.string s :: done) rest := by
    simp [lexFrom, Lexing.step]
  rw [hclose] at hbody
  rw [← hbody]
  simp [lexFrom, Lexing.step, stepBetween, isGap]

/-! ## Numbers read back -/

theorem isNumberChar_of_isDigit {c : Char} (h : Text.isDigit c = true) : isNumberChar c = true := by
  simp [isNumberChar, h]

theorem all_isNumberChar_of_digits {cs : List Char} (h : cs.all Text.isDigit = true) :
    cs.all isNumberChar = true := by
  rw [List.all_eq_true] at *
  exact fun c hc => isNumberChar_of_isDigit (h c hc)

theorem all_isNumberChar_of_readInt {cs : List Char} {n : Int} (h : Text.readInt cs = some n) :
    cs.all isNumberChar = true := by
  have hdigits (ds : List Char) {k : Int}
      (h : (if ds.isEmpty || !ds.all Text.isDigit then none else some k) = some n) :
      ds.all isNumberChar = true := by
    split at h
    · cases h
    · rename_i hds
      exact all_isNumberChar_of_digits (by simp_all)
  unfold Text.readInt at h
  split at h
  · rename_i ds
    rw [List.all_cons, hdigits ds h]
    rfl
  · rename_i ds
    rw [List.all_cons, hdigits ds h]
    rfl
  · exact hdigits _ h

theorem takeWhile_digits {ds rest : List Char} (hds : ds.all Text.isDigit = true)
    (hrest : rest.head?.all (! Text.isDigit ·) = true) :
    (ds ++ rest).takeWhile Text.isDigit = ds ∧ (ds ++ rest).dropWhile Text.isDigit = rest := by
  have hall : ∀ c ∈ ds, Text.isDigit c = true := List.all_eq_true.mp hds
  rw [List.takeWhile_append_of_pos hall, List.dropWhile_append_of_pos hall]
  cases rest with
  | nil => simp
  | cons c rest =>
    have hc : Text.isDigit c = false := by simpa using hrest
    simp [hc]

namespace SpellsNumber

variable {n : Number} {negative : Bool} {m : Double.Numeral} {mark : Char}

theorem whole_ne_nil (h : SpellsNumber n negative m mark) : m.whole ≠ [] := by
  intro hnil
  have := h.denotes
  simp [Number.ofNumeral?, hnil] at this

theorem exponent_chars (h : SpellsNumber n negative m mark) {e : List Char}
    (he : m.exponent = some e) : e.all isNumberChar = true := by
  cases hread : Text.readInt e with
  | some p => exact all_isNumberChar_of_readInt hread
  | none =>
    -- Without a power there is no number.
    have := h.denotes
    simp [Number.ofNumeral?, Double.Numeral.power?, he, hread] at this

theorem isNumberChar_mark (h : SpellsNumber n negative m mark) : isNumberChar mark = true := by
  rcases h.mark with rfl | rfl <;> rfl

theorem all_isNumberChar (h : SpellsNumber n negative m mark) :
    (numeralChars mark m).all isNumberChar = true := by
  have hwhole := all_isNumberChar_of_digits h.whole
  have hfraction := all_isNumberChar_of_digits h.fraction
  have hexponent : (exponentChars mark m.exponent).all isNumberChar = true := by
    cases he : m.exponent with
    | none => rfl
    | some e =>
      rw [exponentChars, List.all_cons, h.isNumberChar_mark, h.exponent_chars he]
      rfl
  have hpoint : (if m.hasPoint then '.' :: m.fraction else []).all isNumberChar = true := by
    split
    · rw [List.all_cons, hfraction]
      rfl
    · rfl
  rw [numeralChars, List.all_append, List.all_append, hwhole, hpoint, hexponent]
  rfl

theorem split?_numeralChars (h : SpellsNumber n negative m mark) :
    Double.Numeral.split? (numeralChars mark m) = some m := by
  obtain ⟨whole, hasPoint, fraction, exponent⟩ := m
  have hmark : Text.isDigit mark = false ∧ mark ≠ '.' ∧ (mark == 'e' || mark == 'E') = true := by
    rcases h.mark with rfl | rfl <;> decide
  have hend : (exponentChars mark exponent).head?.all (! Text.isDigit ·) = true := by
    cases exponent <;> simp [exponentChars, hmark.1]
  unfold Double.Numeral.split? numeralChars
  cases hasPoint with
  | false =>
    have hnone : fraction = [] := h.point rfl
    obtain ⟨htake, hdrop⟩ := takeWhile_digits h.whole hend
    simp only [Bool.false_eq_true, ↓reduceIte, List.nil_append, htake, hdrop, hnone]
    cases exponent with
    | none => rfl
    | some e => simp [exponentChars, hmark.2.1, hmark.2.2]
  | true =>
    have hpoint : ('.' :: (fraction ++ exponentChars mark exponent)).head?.all
        (! Text.isDigit ·) = true := rfl
    obtain ⟨htake, hdrop⟩ := takeWhile_digits h.whole hpoint
    obtain ⟨htake', hdrop'⟩ := takeWhile_digits h.fraction hend
    simp only [↓reduceIte, List.cons_append, htake, hdrop, htake', hdrop']
    cases exponent with
    | none => rfl
    | some e => simp [exponentChars, hmark.2.2]

end SpellsNumber

/-- The numeral of a number reads as the number. -/
theorem SpellsNumber.read? {n : Number} {negative : Bool} {m : Double.Numeral} {mark : Char}
    (h : SpellsNumber n negative m mark) :
    Number.read? ((if negative then ['-'] else []) ++ numeralChars mark m) = some n := by
  cases negative with
  | true =>
    show Double.Numeral.split? (numeralChars mark m) >>= Number.ofNumeral? true = some n
    rw [h.split?_numeralChars]
    exact h.denotes
  | false =>
    obtain ⟨d, ds, hwhole⟩ := List.exists_cons_of_ne_nil h.whole_ne_nil
    have hd : d ≠ '-' := by
      rintro rfl
      have := h.whole
      rw [hwhole] at this
      cases this
    have hread : Number.read? (numeralChars mark m) =
        Double.Numeral.split? (numeralChars mark m) >>= Number.ofNumeral? false := by
      rw [numeralChars, hwhole, List.cons_append, Number.read?]
      exact fun cs hcs => hd (List.cons.inj hcs).1
    show Number.read? (numeralChars mark m) = some n
    rw [hread, h.split?_numeralChars]
    exact h.denotes

/-! ## Tokens read back -/

/-- What may follow a word or a numeral: nothing that would go on with it. -/
def Ends (rest : List Char) : Prop :=
  ∀ c ∈ rest.head?, isNumberChar c = false ∧ (decide ('a' ≤ c) && decide (c ≤ 'z')) = false

theorem lexFrom_finished {state : Lexing} {t : Token} {rest : List Char} (done : List Token)
    (hfinish : finishToken? state = some [t])
    (hstep : ∀ c ∈ rest.head?, state.step done c = stepBetween (t :: done) c) :
    lexFrom state done rest = lexFrom .between (t :: done) rest := by
  cases rest with
  | nil =>
    rw [lexFrom, lexFrom, hfinish]
    rfl
  | cons c rest =>
    rw [lexFrom, lexFrom, hstep c rfl]
    rfl

theorem lexFrom_word {read : List Char} {t : Token} {rest : List Char} (done : List Token)
    (hword : wordToken? (String.ofList read.reverse) = some t) (hrest : Ends rest) :
    lexFrom (.word read) done rest = lexFrom .between (t :: done) rest := by
  refine lexFrom_finished done (by simp [finishToken?, hword]) ?_
  intro c hc
  simp [Lexing.step, (hrest c hc).2, finishToken?, hword]

theorem lexFrom_numberChars {cs : List Char} (h : cs.all isNumberChar = true) (read : List Char)
    (done : List Token) (rest : List Char) :
    lexFrom (.number read) done (cs ++ rest) =
      lexFrom (.number (cs.reverse ++ read)) done rest := by
  induction cs generalizing read with
  | nil => rfl
  | cons c cs ih =>
    obtain ⟨hc, hcs⟩ : isNumberChar c = true ∧ cs.all isNumberChar = true := by simpa using h
    rw [List.cons_append, lexFrom, Lexing.step, if_pos hc, List.reverse_cons, List.append_assoc]
    exact ih hcs (c :: read)

/-- A numeral begins with a digit or a minus sign. -/
theorem stepBetween_number {c : Char} (h : (Text.isDigit c || c == '-') = true)
    (done : List Token) : stepBetween done c = some (.number [c], done) := by
  have hne (x : Char) (hx : (Text.isDigit x || x == '-') = false) : (c == x) = false := by
    rw [beq_eq_false_iff_ne]
    rintro rfl
    rw [h] at hx
    cases hx
  simp only [stepBetween, isGap, hne ' ' rfl, hne '\t' rfl, hne '\n' rfl, hne '\r' rfl, hne '[' rfl,
    hne ']' rfl, hne '\x7b' rfl, hne '\x7d' rfl, hne ',' rfl, hne ':' rfl, hne '"' rfl,
    Bool.or_self, Bool.false_eq_true, ↓reduceIte, h]

theorem lexFrom_number {n : Number} {negative : Bool} {m : Double.Numeral} {mark : Char}
    (h : SpellsNumber n negative m mark) (done : List Token) {rest : List Char}
    (hrest : Ends rest) :
    lexFrom .between done ((if negative then ['-'] else []) ++ numeralChars mark m ++ rest) =
      lexFrom .between (.number n :: done) rest := by
  -- The text is a first character, which opens the numeral, and others that go on with it.
  obtain ⟨c, cs, htext, hc, hcs⟩ : ∃ c cs,
      (if negative then ['-'] else []) ++ numeralChars mark m = c :: cs ∧
        (Text.isDigit c || c == '-') = true ∧ cs.all isNumberChar = true := by
    have hall := h.all_isNumberChar
    cases negative with
    | true => exact ⟨'-', _, rfl, rfl, hall⟩
    | false =>
      obtain ⟨d, ds, hwhole⟩ := List.exists_cons_of_ne_nil h.whole_ne_nil
      have hd := h.whole
      rw [hwhole] at hd
      rw [numeralChars, hwhole] at hall ⊢
      refine ⟨d, _, rfl, ?_, ?_⟩
      · simp at hd
        simp [hd.1]
      · rw [List.cons_append, List.all_cons, Bool.and_eq_true] at hall
        exact hall.2
  have hread := h.read?
  rw [htext] at hread ⊢
  rw [List.cons_append, lexFrom, Lexing.step, stepBetween_number hc]
  show lexFrom (.number [c]) done (cs ++ rest) = _
  rw [lexFrom_numberChars hcs]
  have hfinish : finishToken? (.number (cs.reverse ++ [c])) = some [.number n] := by
    simp [finishToken?, hread]
  refine lexFrom_finished done hfinish ?_
  intro x hx
  simp [Lexing.step, (hrest x hx).1, hfinish]

/-- A token is read wherever it stands, if nothing goes on with a word or a numeral. -/
theorem lexFrom_token {t : Token} {cs rest : List Char} (h : t.Spells cs) (done : List Token)
    (hrest : t.isSolid = true → Ends rest) :
    lexFrom .between done (cs ++ rest) = lexFrom .between (t :: done) rest := by
  cases h with
  | openArray | closeArray | openObject | closeObject | comma | colon => rfl
  | nullWord => exact lexFrom_word done rfl (hrest rfl)
  | trueWord => exact lexFrom_word done rfl (hrest rfl)
  | falseWord => exact lexFrom_word done rfl (hrest rfl)
  | number h => exact lexFrom_number h done (hrest rfl)
  | string h => exact lexFrom_string h done rest

/-! ## Layouts -/

theorem ends_gap {gap : List Char} (h : gap.all isGap = true) : Ends gap := by
  intro c hc
  have hgap : isGap c = true := List.all_eq_true.mp h c (List.mem_of_mem_head? hc)
  simp only [isGap, Bool.or_eq_true, beq_iff_eq] at hgap
  rcases hgap with ((rfl | rfl) | rfl) | rfl <;> exact ⟨rfl, rfl⟩

theorem Token.Spells.ends {t : Token} {cs : List Char} (h : t.Spells cs) (ht : t.isSolid = false)
    (rest : List Char) : Ends (cs ++ rest) := by
  cases h with
  | nullWord | trueWord | falseWord | number => cases ht
  | _ =>
    intro c hc
    cases hc
    exact ⟨rfl, rfl⟩

/-- A text of tokens ends the word or numeral before it, unless it begins with another. -/
theorem IsLayout.ends {ts : List Token} {cs : List Char} (h : IsLayout ts cs)
    (hts : ∀ t ∈ ts.head?, t.isSolid = false) : Ends cs := by
  cases h with
  | nil hgap => exact ends_gap hgap
  | @cons t ts gap cs rest hgap ht _ =>
    cases gap with
    | nil => exact ht.ends (hts t rfl) rest
    | cons c gap =>
      intro x hx
      exact ends_gap hgap x hx

/-- A text of tokens reads as the tokens, whatever white space there is. -/
theorem lexFrom_layout {ts : List Token} {cs : List Char} (h : IsLayout ts cs)
    (hts : ts.IsChain Token.MayTouch) (done : List Token) :
    lexFrom .between done cs = some (done.reverse ++ ts) := by
  induction h generalizing done with
  | @nil gap hgap =>
    have := lexFrom_gap hgap done []
    rw [List.append_nil] at this
    rw [this, lexFrom, finishToken?]
    simp
  | @cons t ts gap cs rest hgap ht hrest ih =>
    obtain ⟨htouch, hts⟩ := List.isChain_cons.mp hts
    have hends : t.isSolid = true → Ends rest := by
      intro hsolid
      refine hrest.ends fun u hu => ?_
      rcases htouch u hu with h | h
      · rw [hsolid] at h
        cases h
      · exact h
    rw [lexFrom_gap hgap, lexFrom_token ht done hends, ih hts, List.reverse_cons]
    simp

theorem tokens?_layout {ts : List Token} {cs : List Char} (h : IsLayout ts cs)
    (hts : ts.IsChain Token.MayTouch) : tokens? cs = some ts :=
  lexFrom_layout h hts []

end SqlTree.Json
