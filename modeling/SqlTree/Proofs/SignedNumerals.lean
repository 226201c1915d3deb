-- Signed numerals: an optional sign and at least one digit, with any white space around them. What
-- is read from such a text is the number that its digits denote by their places, of any size.
import Mathlib.Data.List.Basic
import Mathlib.Data.List.Induction
import Mathlib.Data.List.TakeWhile
import Mathlib.Data.Nat.Digits.Defs
import SqlTree.Text.Blank
import SqlTree.Value.Text

namespace SqlTree.Text

/-! ## Digits -/

theorem isDigit_eq (c : Char) : isDigit c = c.isDigit := rfl

theorem isDigit_of_mem_natDigits {n : Nat} {c : Char} (h : c ∈ natDigits n) :
    c.isDigit = true :=
  Nat.isDigit_of_mem_toDigits (by decide) (by decide) h

/-- A numeral does not begin with zero, unless it is the numeral of zero. -/
theorem head?_natDigits {n : Nat} (h : 0 < n) : (natDigits n).head? ≠ some '0' := by
  induction n using Nat.strongRecOn with
  | ind n ih =>
    by_cases hn : n < 10
    · have hdigit : ∀ k < 10, 0 < k → Nat.digitChar k ≠ '0' := by decide
      rw [natDigits, Nat.toDigits_of_lt_base hn]
      simpa using hdigit n hn h
    · rw [natDigits, Nat.toDigits_of_base_le (by decide) (by omega),
        List.head?_append_of_ne_nil _ Nat.toDigits_ne_nil]
      exact ih (n / 10) (by omega) (by omega)

theorem not_blank_of_isDigit {c : Char} (h : isDigit c = true) : isBlank c = false := by
  rw [isDigit_eq, Char.isDigit_iff_toNat] at h
  have hlow : 48 ≤ c.toNat := h.1
  have hhigh : c.toNat ≤ 57 := h.2
  simp only [isBlank, Bool.or_eq_false_iff, Bool.and_eq_false_iff, decide_eq_false_iff_not,
    beq_eq_false_iff_ne]
  omega

/-- The digits of a numeral, of which there is at least one. -/
def IsNumeral (ds : List Char) : Prop := ds ≠ [] ∧ ∀ c ∈ ds, isDigit c = true

/-- The number that digits denote by their places, the last digit standing for the ones. -/
def placeValue (ds : List Char) : Nat := Nat.ofDigits 10 (ds.reverse.map digitValue)

theorem numeralValue_eq_placeValue (ds : List Char) : numeralValue ds = placeValue ds := by
  induction ds using List.reverseRecOn with
  | nil => rfl
  | append_singleton ds c ih =>
    have hvalue : numeralValue (ds ++ [c]) = 10 * numeralValue ds + digitValue c := by
      simp [numeralValue]
    have hplace : placeValue (ds ++ [c]) = digitValue c + 10 * placeValue ds := by
      simp [placeValue, Nat.ofDigits_cons]
    rw [hvalue, hplace, ih]
    omega

theorem isNumeral_natDigits (n : Nat) : IsNumeral (natDigits n) :=
  ⟨Nat.toDigits_ne_nil, fun _ => isDigit_of_mem_natDigits⟩

theorem numeralValue_natDigits (n : Nat) : numeralValue (natDigits n) = n :=
  Nat.ofDigitChars_ten_toDigits

theorem isNumeral_padded (width n : Nat) : IsNumeral (padded width n) := by
  obtain ⟨hne, hdigits⟩ := isNumeral_natDigits n
  refine ⟨by simp [padded, hne], ?_⟩
  intro c hc
  rcases List.mem_append.mp hc with hzero | hc
  · rw [List.eq_of_mem_replicate hzero]
    rfl
  · exact hdigits c hc

theorem placeValue_natDigits (n : Nat) : placeValue (natDigits n) = n := by
  rw [← numeralValue_eq_placeValue, numeralValue_natDigits]

theorem placeValue_append (ds es : List Char) :
    placeValue (ds ++ es) = placeValue ds * 10 ^ es.length + placeValue es := by
  simp only [placeValue, List.reverse_append, List.map_append, Nat.ofDigits_append, List.length_map,
    List.length_reverse]
  rw [Nat.add_comm, Nat.mul_comm]

theorem placeValue_zeros (n : Nat) : placeValue (List.replicate n '0') = 0 := by
  induction n with
  | zero => rfl
  | succ n ih =>
    rw [List.replicate_succ', placeValue_append, ih]
    rfl

/-- Leading zeros do not change what a numeral denotes. -/
theorem numeralValue_padded (width n : Nat) : numeralValue (padded width n) = n := by
  unfold padded
  rw [numeralValue_eq_placeValue, placeValue_append, placeValue_zeros, placeValue_natDigits,
    Nat.zero_mul, Nat.zero_add]

/-- A number below `10 ^ width` has exactly as many digits as asked for. -/
theorem length_padded {width n : Nat} (hwidth : 0 < width) (h : n < 10 ^ width) :
    (padded width n).length = width := by
  have hlength : (natDigits n).length ≤ width :=
    (Nat.length_toDigits_le_iff (by decide) hwidth).mpr h
  simp only [padded, List.length_append, List.length_replicate]
  omega

/-! ## Signed numerals -/

/-- A signed numeral, and the integer it denotes. -/
inductive SignedNumeral : List Char → Int → Prop
  | bare {ds : List Char} (digits : IsNumeral ds) : SignedNumeral ds (placeValue ds)
  | plus {ds : List Char} (digits : IsNumeral ds) : SignedNumeral ('+' :: ds) (placeValue ds)
  | minus {ds : List Char} (digits : IsNumeral ds) : SignedNumeral ('-' :: ds) (-placeValue ds)

theorem not_blank_of_signedNumeral {cs : List Char} {n : Int} (h : SignedNumeral cs n) :
    ∀ c ∈ cs, isBlank c = false := by
  intro c hc
  cases h with
  | bare digits => exact not_blank_of_isDigit (digits.2 c hc)
  | plus digits | minus digits =>
    rcases List.mem_cons.mp hc with rfl | hc
    · decide
    · exact not_blank_of_isDigit (digits.2 c hc)

theorem signedNumeral_intDigits (n : Int) : SignedNumeral (intDigits n) n := by
  cases n with
  | ofNat k =>
    have h := SignedNumeral.bare (isNumeral_natDigits k)
    rw [placeValue_natDigits] at h
    exact h
  | negSucc k =>
    have h := SignedNumeral.minus (isNumeral_natDigits (k + 1))
    rw [placeValue_natDigits] at h
    exact h

theorem digits_eq_some {ds : List Char} {k n : Int} :
    (if ds.isEmpty || !ds.all isDigit then none else some k) = some n ↔ IsNumeral ds ∧ k = n := by
  by_cases hnil : ds = []
  · simp [hnil, IsNumeral]
  · simp [hnil, IsNumeral, and_comm]

/-- Signed numerals are read as what they denote, and nothing else is read. -/
theorem readInt_eq_some {cs : List Char} {n : Int} :
    readInt cs = some n ↔ SignedNumeral cs n := by
  constructor
  · intro h
    unfold readInt at h
    split at h
    all_goals
      obtain ⟨digits, rfl⟩ := digits_eq_some.mp h
      rw [numeralValue_eq_placeValue]
    · exact .minus digits
    · exact .plus digits
    · exact .bare digits
  · intro h
    cases h with
    | plus digits | minus digits =>
      rw [readInt, digits_eq_some, numeralValue_eq_placeValue]
      exact ⟨digits, rfl⟩
    | bare digits =>
      unfold readInt
      split
      · exact absurd (digits.2 '-' List.mem_cons_self) (by decide)
      · exact absurd (digits.2 '+' List.mem_cons_self) (by decide)
      · rw [digits_eq_some, numeralValue_eq_placeValue]
        exact ⟨digits, rfl⟩

/-! ## White space around a text -/

/-- A text that neither begins nor ends with white space. -/
structure IsTrimmed (cs : List Char) : Prop where
  first : ∀ c ∈ cs.head?, isBlank c = false
  last : ∀ c ∈ cs.getLast?, isBlank c = false

theorem isTrimmed_of_not_blank {cs : List Char} (h : ∀ c ∈ cs, isBlank c = false) :
    IsTrimmed cs :=
  ⟨fun c hc => h c (List.mem_of_mem_head? hc), fun c hc => h c (List.mem_of_mem_getLast? hc)⟩

theorem dropBlanks_append {blanks rest : List Char} (h : ∀ c ∈ blanks, isBlank c = true) :
    dropBlanks (blanks ++ rest) = dropBlanks rest :=
  List.dropWhile_append_of_pos h

theorem dropBlanks_of_first {cs : List Char} (h : ∀ c ∈ cs.head?, isBlank c = false) :
    dropBlanks cs = cs := by
  cases cs with
  | nil => rfl
  | cons c cs =>
    have hc : isBlank c = false := h c rfl
    simp [dropBlanks, hc]

/-- Trimming takes off the white space around a text that has none at its own ends. -/
theorem trimChars_append {before cs after : List Char} (hcs : IsTrimmed cs)
    (hbefore : ∀ c ∈ before, isBlank c = true) (hafter : ∀ c ∈ after, isBlank c = true) :
    trimChars (before ++ (cs ++ after)) = cs := by
  unfold trimChars
  rw [dropBlanks_append hbefore]
  have hlast : dropBlanks (after.reverse ++ cs.reverse) = cs.reverse := by
    rw [dropBlanks_append fun c hc => hafter c (List.mem_reverse.mp hc)]
    apply dropBlanks_of_first
    rw [List.head?_reverse]
    exact hcs.last
  by_cases hnil : cs = []
  · subst hnil
    rw [List.nil_append, ← List.append_nil after, dropBlanks_append hafter]
    rfl
  · have hfirst : dropBlanks (cs ++ after) = cs ++ after := by
      apply dropBlanks_of_first
      rw [List.head?_append_of_ne_nil cs hnil]
      exact hcs.first
    rw [hfirst, List.reverse_append, hlast, List.reverse_reverse]

theorem trimChars_of_isTrimmed {cs : List Char} (h : IsTrimmed cs) : trimChars cs = cs := by
  have happend := @trimChars_append [] cs [] h (by simp) (by simp)
  simpa using happend

/-- What trimming takes off is white space. -/
theorem exists_append_trimChars (cs : List Char) :
    ∃ before after, cs = before ++ (trimChars cs ++ after) ∧
      (∀ c ∈ before, isBlank c = true) ∧ (∀ c ∈ after, isBlank c = true) := by
  have hsplit (xs : List Char) : ∃ blanks, xs = blanks ++ dropBlanks xs ∧
      ∀ c ∈ blanks, isBlank c = true :=
    ⟨xs.takeWhile isBlank, List.takeWhile_append_dropWhile.symm, fun c => List.mem_takeWhile_imp⟩
  obtain ⟨before, hbefore, hblank⟩ := hsplit cs
  obtain ⟨after, hafter, hblank'⟩ := hsplit (dropBlanks cs).reverse
  refine ⟨before, after.reverse, ?_, hblank, fun c hc => hblank' c (List.mem_reverse.mp hc)⟩
  have hrest := congrArg List.reverse hafter
  rw [List.reverse_reverse, List.reverse_append] at hrest
  unfold trimChars
  rw [← hrest]
  exact hbefore

theorem exists_dropBlanks_eq (cs : List Char) :
    ∃ after, dropBlanks cs = trimChars cs ++ after ∧ ∀ c ∈ after, isBlank c = true := by
  refine ⟨((dropBlanks cs).reverse.takeWhile isBlank).reverse, ?_, ?_⟩
  · have hsplit := List.takeWhile_append_dropWhile (p := isBlank) (l := (dropBlanks cs).reverse)
    have hreverse := congrArg List.reverse hsplit
    rw [List.reverse_append, List.reverse_reverse] at hreverse
    exact hreverse.symm
  · exact fun c hc => List.mem_takeWhile_imp (List.mem_reverse.mp hc)

theorem isTrimmed_trimChars (cs : List Char) : IsTrimmed (trimChars cs) := by
  have hhead (xs : List Char) : ∀ c ∈ (dropBlanks xs).head?, isBlank c = false := by
    intro c hc
    have hnot := List.head?_dropWhile_not isBlank xs
    rw [show (xs.dropWhile isBlank).head? = some c from hc] at hnot
    exact hnot
  constructor
  · intro c hc
    obtain ⟨after, hafter, -⟩ := exists_dropBlanks_eq cs
    apply hhead cs
    rw [hafter, List.head?_append, Option.mem_def.mp hc]
    rfl
  · intro c hc
    rw [trimChars, List.getLast?_reverse] at hc
    exact hhead _ c hc

/-! ## Texts that denote integers -/

/-- A text denotes an integer if it is a signed numeral of it, with any white space around it. -/
def Denotes (s : String) (n : Int) : Prop :=
  ∃ before cs after, s.toList = before ++ (cs ++ after) ∧ (∀ c ∈ before, isBlank c = true) ∧
    (∀ c ∈ after, isBlank c = true) ∧ SignedNumeral cs n

/-- Exactly the texts that denote an integer are read, as that integer. -/
theorem readInt_trimChars {s : String} {n : Int} :
    readInt (trimChars s.toList) = some n ↔ Denotes s n := by
  rw [readInt_eq_some]
  constructor
  · intro h
    obtain ⟨before, after, hs, hbefore, hafter⟩ := exists_append_trimChars s.toList
    exact ⟨before, _, after, hs, hbefore, hafter, h⟩
  · rintro ⟨before, cs, after, hs, hbefore, hafter, h⟩
    have htrimmed := isTrimmed_of_not_blank (not_blank_of_signedNumeral h)
    rw [hs, trimChars_append htrimmed hbefore hafter]
    exact h

theorem denotes_integerText (n : Int64) : Denotes (integerText n) n.toInt := by
  refine ⟨[], intDigits n.toInt, [], ?_, by simp, by simp, signedNumeral_intDigits n.toInt⟩
  simp [integerText]

end SqlTree.Text
