-- Decimal numbers as texts: digits, perhaps with a point among them. Such a text is read as the
-- double that attracts the number it denotes.
import SqlTree.Double.Reader
import SqlTree.Proofs.NearestDouble
import SqlTree.Proofs.SignedNumerals

namespace SqlTree

/-! ## Decimal numbers -/

namespace Text

/-- The characters of decimal numbers. -/
def isNumeralChar (c : Char) : Bool := c.isDigit || c == '-' || c == '.'

/-- A number without a sign, and what it denotes: digits, and perhaps a point with more digits
behind it. -/
inductive UnsignedDecimal : List Char → ℚ → Prop
  | whole {ds : List Char} (digits : IsNumeral ds) : UnsignedDecimal ds (placeValue ds)
  | fraction {ds es : List Char} (digits : IsNumeral ds) (places : IsNumeral es) :
      UnsignedDecimal (ds ++ '.' :: es) (placeValue (ds ++ es) / 10 ^ es.length)

/-- A decimal number, and what it denotes: one without a sign, perhaps behind a minus sign. -/
inductive DecimalNumeral : List Char → ℚ → Prop
  | bare {cs : List Char} {x : ℚ} (number : UnsignedDecimal cs x) : DecimalNumeral cs x
  | minus {cs : List Char} {x : ℚ} (number : UnsignedDecimal cs x) : DecimalNumeral ('-' :: cs) (-x)

/-- The texts of decimal numbers. -/
def IsDecimal (cs : List Char) : Prop := ∃ x, DecimalNumeral cs x

variable {ds es cs : List Char} {x : ℚ}

theorem IsNumeral.append (hds : IsNumeral ds) (hes : ∀ c ∈ es, isDigit c = true) :
    IsNumeral (ds ++ es) := by
  refine ⟨by simp [hds.1], fun c hc => ?_⟩
  rcases List.mem_append.mp hc with h | h
  · exact hds.2 c h
  · exact hes c h

theorem isDecimal_intDigits (n : Int) : IsDecimal (intDigits n) := by
  cases n with
  | ofNat n => exact ⟨_, .bare (.whole (isNumeral_natDigits n))⟩
  | negSucc n => exact ⟨_, .minus (.whole (isNumeral_natDigits (n + 1)))⟩

theorem UnsignedDecimal.ne_nil (h : UnsignedDecimal cs x) : cs ≠ [] := by
  cases h with
  | whole digits => exact digits.1
  | fraction digits places => simp

theorem UnsignedDecimal.isDigit_head (h : UnsignedDecimal cs x) :
    ∀ c ∈ cs.head?, isDigit c = true := by
  intro c hc
  cases h with
  | whole digits => exact digits.2 c (List.mem_of_mem_head? hc)
  | fraction digits places =>
    rw [List.head?_append_of_ne_nil _ digits.1] at hc
    exact digits.2 c (List.mem_of_mem_head? hc)

theorem isNumeralChar_of_isDigit {c : Char} (h : c.isDigit = true) : isNumeralChar c = true := by
  simp [isNumeralChar, h]

theorem UnsignedDecimal.isNumeralChar (h : UnsignedDecimal cs x) :
    ∀ c ∈ cs, isNumeralChar c = true := by
  intro c hc
  cases h with
  | whole digits => exact isNumeralChar_of_isDigit (digits.2 c hc)
  | fraction digits places =>
    rcases List.mem_append.mp hc with hc | hc
    · exact isNumeralChar_of_isDigit (digits.2 c hc)
    · rcases List.mem_cons.mp hc with rfl | hc
      · rfl
      · exact isNumeralChar_of_isDigit (places.2 c hc)

theorem IsDecimal.ne_nil (h : IsDecimal cs) : cs ≠ [] := by
  obtain ⟨x, h⟩ := h
  cases h with
  | bare number => exact number.ne_nil
  | minus number => simp

theorem IsDecimal.isNumeralChar (h : IsDecimal cs) : ∀ c ∈ cs, Text.isNumeralChar c = true := by
  obtain ⟨x, h⟩ := h
  cases h with
  | bare number => exact number.isNumeralChar
  | minus number =>
    intro c hc
    rcases List.mem_cons.mp hc with rfl | hc
    · rfl
    · exact number.isNumeralChar c hc

end Text

/-! ## Reading -/

namespace Double

open Text

variable {ds es cs : List Char} {x : ℚ} {d : Double}

theorem Numeral.split?_whole (hds : IsNumeral ds) :
    split? ds = some { whole := ds, hasPoint := false, fraction := [], exponent := none } := by
  unfold split?
  rw [List.takeWhile_eq_self_iff.mpr hds.2, List.dropWhile_eq_nil_iff.mpr hds.2]

theorem Numeral.split?_fraction (hds : IsNumeral ds) (hes : IsNumeral es) :
    split? (ds ++ '.' :: es) =
      some { whole := ds, hasPoint := true, fraction := es, exponent := none } := by
  have hpoint : isDigit '.' = false := rfl
  unfold split?
  rw [List.takeWhile_append_of_pos hds.2, List.dropWhile_append_of_pos hds.2,
    List.takeWhile_cons_of_neg (by simp [hpoint]), List.dropWhile_cons_of_neg (by simp [hpoint])]
  simp only
  rw [List.takeWhile_eq_self_iff.mpr hes.2, List.dropWhile_eq_nil_iff.mpr hes.2, List.append_nil]

theorem toLower_of_isDigit {c : Char} (h : isDigit c = true) : c.toLower = c := by
  rw [isDigit_eq, Char.isDigit_iff_toNat] at h
  have hhigh : c.toNat ≤ 57 := h.2
  unfold Char.toLower
  rw [dif_neg]
  rintro ⟨hlow, -⟩
  have hlow' : 65 ≤ c.toNat := hlow
  omega

/-- A text that begins with a digit is not taken for a name. -/
theorem readMagnitude_of_split? (negative : Bool) {n : Numeral}
    (hfirst : ∀ c ∈ cs.head?, isDigit c = true) (hsplit : Numeral.split? cs = some n)
    (hwhole : n.whole ≠ []) (hexponent : n.exponent = none) :
    readMagnitude negative cs = some (n.value negative 0) := by
  have hname (name : String) (hname : ∃ c ∈ name.toList.head?, isDigit c = false) :
      (String.ofList (cs.map Char.toLower) == name) = false := by
    obtain ⟨c, hc, hletter⟩ := hname
    rw [beq_eq_false_iff_ne]
    rintro rfl
    rw [String.toList_ofList, List.head?_map, Option.mem_def, Option.map_eq_some_iff] at hc
    obtain ⟨c', hc', rfl⟩ := hc
    have hdigit := hfirst c' hc'
    rw [toLower_of_isDigit hdigit, hdigit] at hletter
    cases hletter
  unfold readMagnitude
  simp only [hname "inf" ⟨'i', rfl, rfl⟩, hname "infinity" ⟨'i', rfl, rfl⟩,
    hname "nan" ⟨'n', rfl, rfl⟩, hsplit]
  simp [hwhole, Numeral.power?, hexponent]

/-- A decimal is read as the double that attracts what it denotes. -/
theorem readMagnitude_of_attracts (hfinite : d.isFinite = true) (hcs : UnsignedDecimal cs x)
    (h : d.Attracts x) : readMagnitude d.isNegative cs = some d := by
  have hread {n : Numeral} := readMagnitude_of_split? (n := n) d.isNegative hcs.isDigit_head
  cases hcs with
  | whole digits =>
    rw [hread (Numeral.split?_whole digits) digits.1 rfl, Numeral.value, List.append_nil,
      numeralValue_eq_placeValue, ofDecimal_of_attracts hfinite]
    simpa using h
  | fraction digits places =>
    rw [hread (Numeral.split?_fraction digits places) digits.1 rfl, Numeral.value,
      numeralValue_eq_placeValue, ofDecimal_of_attracts hfinite]
    simpa [zpow_neg, div_eq_mul_inv] using h

theorem read?_of_isDigit (h : ∀ c ∈ cs.head?, isDigit c = true) :
    read? cs = readMagnitude false cs := by
  unfold read?
  split
  · exact absurd (h '-' rfl) (by decide)
  · exact absurd (h '+' rfl) (by decide)
  · rfl

end Double

end SqlTree
