-- Rounding to doubles. A number in the basin of a double, which reaches half of the way to its
-- neighbours, is rounded to this double, by whichever power of two or ten it is given.
import SqlTree.Double.Rounding
import SqlTree.Double.Shortest
import SqlTree.Proofs.DoubleValue

namespace SqlTree.Double

/-! ## Fields -/

variable {d : Double} {x : ℚ}

theorem units_of_exponent (h : d.exponentField ≠ 0) : d.units = d.fraction + 2 ^ 52 := by
  rw [units, if_neg h, Nat.pow_eq]

theorem units_lt (d : Double) : d.units < 2 ^ 53 := by
  have hfraction := d.fraction_lt
  unfold units
  simp only [Nat.pow_eq]
  split <;> omega

theorem exponentField_lt_of_isFinite (h : d.isFinite = true) : d.exponentField < 2047 := by
  have hexponent : d.exponentField < 2048 := Nat.mod_lt _ (by decide)
  have hne : d.exponentField ≠ 2047 := by simpa [isFinite] using h
  omega

theorem scale_bounds (h : d.isFinite = true) : -1074 ≤ d.scale ∧ d.scale ≤ 971 := by
  have hexponent := exponentField_lt_of_isFinite h
  unfold scale
  simp only [Int.ofNat_eq_natCast]
  omega

/-- The bits of a double are those of its exponent and its units together. -/
theorem place_eq_units (d : Double) : (d.scale + 1074).toNat * 2 ^ 52 + d.units = d.place := by
  unfold scale units place
  simp only [Int.ofNat_eq_natCast, Nat.pow_eq]
  split <;> omega

theorem place_lt_of_isFinite (h : d.isFinite = true) : d.place < 2047 * 2 ^ 52 := by
  have hexponent := exponentField_lt_of_isFinite h
  have hfraction := d.fraction_lt
  unfold place
  omega

theorem ofMagnitudeBits_place (d : Double) : ofMagnitudeBits d.isNegative d.place = d := by
  obtain ⟨bits⟩ := d
  have hbits := bits.toNat_lt
  unfold ofMagnitudeBits place isNegative exponentField fraction
  congr 1
  apply UInt64.toNat_inj.mp
  simp only [Nat.pow_eq, decide_eq_true_eq, UInt64.toNat_ofNat']
  split <;> omega

theorem ofMagnitudeBits_zero (h : d.units = 0) : ofMagnitudeBits d.isNegative 0 = d := by
  have hplace : d.place = 0 := by
    unfold units at h
    unfold place
    split at h
    · simp_all
    · simp at h
  have hbits := d.ofMagnitudeBits_place
  rwa [hplace] at hbits

/-! ## Basins -/

/-- Whether a number of quarter units lies in a basin. -/
def Basin.Contains (b : Basin) (x : ℚ) : Prop :=
  if b.closed then b.low ≤ x ∧ x ≤ b.high else b.low < x ∧ x < b.high

/-- Whether a number lies in the basin of a double. -/
def Attracts (d : Double) (x : ℚ) : Prop := d.basin.Contains (x / 2 ^ (d.scale - 2))

/-- Whether a number is rounded to a whole one: it is at most a half away, and a half only from an
even one. -/
def IsNearestWhole (x : ℚ) (m : Nat) : Prop := |x - m| ≤ 1 / 2 ∧ (|x - m| = 1 / 2 → m % 2 = 0)

theorem Basin.Contains.le {b : Basin} (h : b.Contains x) : b.low ≤ x ∧ x ≤ b.high := by
  unfold Contains at h
  split at h
  · exact h
  · exact ⟨h.1.le, h.2.le⟩

/-- The ends of a basin belong to it only if it is closed. -/
theorem Basin.Contains.closed_of_end {b : Basin} (h : b.Contains x)
    (hend : x = b.low ∨ x = b.high) : b.closed = true := by
  by_contra hopen
  unfold Contains at h
  rw [if_neg hopen] at h
  rcases hend with rfl | rfl
  · exact absurd h.1 (lt_irrefl _)
  · exact absurd h.2 (lt_irrefl _)

/-- Four quarter units are a unit. -/
theorem quarters_eq (d : Double) (x : ℚ) : x / 2 ^ (d.scale - 2) = 4 * (x / 2 ^ d.scale) := by
  rw [zpow_sub₀ two_ne_zero]
  field_simp
  norm_num

/-- The basin reaches a half down, and only a quarter if a power of two begins with the double. -/
theorem basin_low_add (d : Double) (hunits : d.units ≠ 0) :
    d.basin.low + (if d.fraction = 0 ∧ 1 < d.exponentField then 1 else 2) = 4 * d.units := by
  simp only [basin, Bool.and_eq_true, decide_eq_true_eq]
  split <;> omega

/-- A double attracts only what is at most half a unit away. -/
theorem isNearestWhole_of_attracts (h : d.Attracts x) :
    IsNearestWhole (x / 2 ^ d.scale) d.units := by
  unfold Attracts at h
  rw [quarters_eq] at h
  obtain ⟨hlow, hhigh⟩ := h.le
  have hhighEq : (d.basin.high : ℚ) = 4 * d.units + 2 := by simp [basin]
  have hlowLe : (4 : ℚ) * d.units ≤ d.basin.low + 2 := by
    have hle : 4 * d.units ≤ d.basin.low + 2 := by
      by_cases hunits : d.units = 0
      · omega
      · have hlow := d.basin_low_add hunits
        split at hlow <;> omega
    exact_mod_cast hle
  constructor
  · rw [abs_le]
    constructor <;> linarith
  · intro hhalf
    have hclosed : d.basin.closed = true := by
      refine h.closed_of_end ?_
      rcases eq_or_eq_neg_of_abs_eq hhalf with hup | hdown
      · right
        linarith
      · left
        linarith
    simpa [basin] using hclosed

/-- Below a power of two a double attracts only what is at most a quarter of a unit away. -/
theorem le_of_attracts_power (h : d.Attracts x) (hfraction : d.fraction = 0)
    (hexponent : 1 < d.exponentField) : d.units - 1 / 4 ≤ x / 2 ^ d.scale := by
  unfold Attracts at h
  rw [quarters_eq] at h
  have hunits : d.units ≠ 0 := by
    rw [units_of_exponent (by omega)]
    omega
  have hlow := d.basin_low_add hunits
  rw [if_pos ⟨hfraction, hexponent⟩] at hlow
  have hlow' : (d.basin.low : ℚ) + 1 = 4 * d.units := by exact_mod_cast hlow
  linarith [h.le.1]

/-! ## Rounding to whole numbers -/

/-- A quotient is rounded to a whole number if its numerator is at most half a denominator away. -/
theorem bounds_of_isNearestWhole {num den m : Nat} (hden : 0 < den)
    (h : IsNearestWhole (num / den : ℚ) m) :
    2 * (m * den) ≤ 2 * num + den ∧ 2 * num ≤ 2 * (m * den) + den ∧
      (2 * num + den = 2 * (m * den) ∨ 2 * num = 2 * (m * den) + den → m % 2 = 0) := by
  have hpos : (0 : ℚ) < den := by exact_mod_cast hden
  obtain ⟨hdown, hup⟩ := abs_le.mp h.1
  refine ⟨?_, ?_, fun hhalf => h.2 ?_⟩
  · have hle : ((m : ℚ) - 1 / 2) * den ≤ num := (le_div_iff₀ hpos).mp (by linarith)
    have hle' : (2 : ℚ) * (m * den) ≤ 2 * num + den := by linarith
    exact_mod_cast hle'
  · have hle : (num : ℚ) ≤ (m + 1 / 2) * den := (div_le_iff₀ hpos).mp (by linarith)
    have hle' : (2 : ℚ) * num ≤ 2 * (m * den) + den := by linarith
    exact_mod_cast hle'
  · have hvalue : (num / den : ℚ) - m = -(1 / 2) ∨ (num / den : ℚ) - m = 1 / 2 := by
      rw [sub_eq_iff_eq_add, sub_eq_iff_eq_add, div_eq_iff hpos.ne', div_eq_iff hpos.ne']
      rcases hhalf with hhalf | hhalf
      · left
        have hcast : (2 : ℚ) * num + den = 2 * (m * den) := by exact_mod_cast hhalf
        linarith
      · right
        have hcast : (2 : ℚ) * num = 2 * (m * den) + den := by exact_mod_cast hhalf
        linarith
    rcases hvalue with hvalue | hvalue <;> rw [hvalue] <;> norm_num

theorem roundHalfEven_eq {num den m : Nat} (hden : 0 < den)
    (h : IsNearestWhole (num / den : ℚ) m) : roundHalfEven num den = m := by
  obtain ⟨hlow, hhigh, htie⟩ := bounds_of_isNearestWhole hden h
  have hdivision := Nat.div_add_mod num den
  have hmod := Nat.mod_lt num hden
  have hle : num / den ≤ m := by
    by_contra hlt
    have hmul := Nat.mul_le_mul_left den (show m + 1 ≤ num / den by omega)
    rw [Nat.mul_add, Nat.mul_comm den m] at hmul
    omega
  have hge : m ≤ num / den + 1 := by
    by_contra hlt
    have hmul := Nat.mul_le_mul_left den (show num / den + 2 ≤ m by omega)
    rw [Nat.mul_add, Nat.mul_comm den m] at hmul
    omega
  -- The whole number is the quotient or the one after it, and the remainder tells which.
  unfold roundHalfEven
  generalize num / den = q at *
  generalize num % den = r at *
  have hcases : m = q ∨ m = q + 1 := by omega
  rcases hcases with rfl | rfl
  · rw [Nat.mul_comm m den] at *
    grind
  · rw [Nat.add_mul, Nat.mul_comm q den] at *
    grind

/-- A power with any exponent, as one of two powers with exponents that are not negative. -/
theorem zpow_mul_pow_neg (base : ℚ) (hbase : base ≠ 0) (e : Int) :
    base ^ e * base ^ (-e).toNat = base ^ e.toNat := by
  rw [← zpow_natCast, ← zpow_natCast, ← zpow_add₀ hbase]
  congr 1
  omega

/-- A number counted in units that are any power of two. -/
theorem roundHalfEven_scaled {num den m : Nat} {scale : Int} (hden : 0 < den)
    (h : IsNearestWhole (num / den / 2 ^ scale : ℚ) m) :
    (if scale ≥ 0 then roundHalfEven num (den * Nat.pow 2 scale.toNat)
      else roundHalfEven (num * Nat.pow 2 (-scale).toNat) den) = m := by
  have hpower := zpow_mul_pow_neg 2 two_ne_zero scale
  split
  · rename_i hscale
    have hvalue : (num / den / 2 ^ scale : ℚ) = num / (den * 2 ^ scale.toNat : ℕ) := by
      rw [Int.toNat_eq_zero.mpr (by omega : -scale ≤ 0), pow_zero, mul_one] at hpower
      rw [hpower, div_div]
      push_cast
      rfl
    exact roundHalfEven_eq (Nat.mul_pos hden (Nat.two_pow_pos _)) (hvalue ▸ h)
  · rename_i hscale
    have hvalue : (num / den / 2 ^ scale : ℚ) = (num * 2 ^ (-scale).toNat : ℕ) / den := by
      rw [Int.toNat_eq_zero.mpr (by omega : scale ≤ 0), pow_zero] at hpower
      rw [eq_inv_of_mul_eq_one_left hpower]
      push_cast
      rw [div_inv_eq_mul, div_mul_eq_mul_div]
    exact roundHalfEven_eq hden (hvalue ▸ h)

/-! ## The nearest double -/

theorem zpow_le_div_iff (num : Nat) {den : Nat} (hden : 0 < den) (e : Int) :
    (2 : ℚ) ^ e ≤ num / den ↔
      if e ≥ 0 then den * Nat.pow 2 e.toNat ≤ num else den ≤ num * Nat.pow 2 (-e).toNat := by
  have hpower := zpow_mul_pow_neg 2 two_ne_zero e
  have hpos : (0 : ℚ) < den := by exact_mod_cast hden
  rw [le_div_iff₀ hpos]
  split
  · rename_i he
    rw [Int.toNat_eq_zero.mpr (by omega), pow_zero, mul_one] at hpower
    rw [hpower, mul_comm]
    exact_mod_cast Iff.rfl
  · rename_i he
    rw [Int.toNat_eq_zero.mpr (by omega : e ≤ 0), pow_zero] at hpower
    have hparts : (0 : ℚ) < 2 ^ (-e).toNat := by positivity
    rw [← mul_le_mul_iff_of_pos_right hparts, mul_right_comm, hpower, one_mul]
    exact_mod_cast Iff.rfl

/-- The power of two that a positive number begins with. -/
theorem zpow_floorLog2 {num den : Nat} (hnum : 0 < num) (hden : 0 < den) :
    (2 : ℚ) ^ floorLog2 num den ≤ num / den ∧ (num / den : ℚ) < 2 ^ (floorLog2 num den + 1) := by
  have hpos : (0 : ℚ) < den := by exact_mod_cast hden
  have hnumLow : (2 : ℚ) ^ num.log2 ≤ num := by exact_mod_cast Nat.log2_self_le hnum.ne'
  have hnumHigh : (num : ℚ) < 2 ^ (num.log2 + 1) := by exact_mod_cast Nat.lt_log2_self
  have hdenLow : (2 : ℚ) ^ den.log2 ≤ den := by exact_mod_cast Nat.log2_self_le hden.ne'
  have hdenHigh : (den : ℚ) < 2 ^ (den.log2 + 1) := by exact_mod_cast Nat.lt_log2_self
  -- The guess from the logarithms of both is at most one too large.
  have hlow : (2 : ℚ) ^ (num.log2 - den.log2 - 1 : ℤ) ≤ num / den := by
    rw [le_div_iff₀ hpos]
    calc (2 : ℚ) ^ (num.log2 - den.log2 - 1 : ℤ) * den
        ≤ 2 ^ (num.log2 - den.log2 - 1 : ℤ) * 2 ^ (den.log2 + 1) := by gcongr
      _ = 2 ^ num.log2 := by
        rw [← zpow_natCast, ← zpow_natCast, ← zpow_add₀ two_ne_zero]
        congr 1
        push_cast
        ring
      _ ≤ num := hnumLow
  have hhigh : (num / den : ℚ) < 2 ^ (num.log2 - den.log2 + 1 : ℤ) := by
    rw [div_lt_iff₀ hpos]
    calc (num : ℚ) < 2 ^ (num.log2 + 1) := hnumHigh
      _ = 2 ^ (num.log2 - den.log2 + 1 : ℤ) * 2 ^ den.log2 := by
        rw [← zpow_natCast, ← zpow_natCast, ← zpow_add₀ two_ne_zero]
        congr 1
        push_cast
        ring
      _ ≤ 2 ^ (num.log2 - den.log2 + 1 : ℤ) * den := by gcongr
  have hreached := zpow_le_div_iff num hden (num.log2 - den.log2)
  unfold floorLog2
  simp only [Int.ofNat_eq_natCast]
  by_cases hguess : (2 : ℚ) ^ (num.log2 - den.log2 : ℤ) ≤ num / den
  · rw [if_pos (hreached.mp hguess)]
    exact ⟨hguess, hhigh⟩
  · rw [if_neg (mt hreached.mpr hguess), sub_add_cancel]
    exact ⟨hlow, lt_of_not_ge hguess⟩

/-- What a double attracts is below the next power of two, since it is less than a unit away. -/
theorem lt_of_attracts (h : d.Attracts x) : x < 2 ^ (53 + d.scale) := by
  have hnear := (abs_le.mp (isNearestWhole_of_attracts h).1).2
  have hunits : (d.units : ℚ) + 1 ≤ 2 ^ 53 := by exact_mod_cast d.units_lt
  have hpos : (0 : ℚ) < 2 ^ d.scale := by positivity
  rw [zpow_add₀ two_ne_zero, ← div_lt_iff₀ hpos]
  norm_num at hunits ⊢
  linarith

/-- A number that a double attracts is rounded in units of this double. Only below a power of two it
is rounded in halves of them. -/
theorem scale_cases {e : Int} (h : d.Attracts x) (hlow : (2 : ℚ) ^ e ≤ x)
    (hhigh : x < 2 ^ (e + 1)) :
    max (e - 52) (-1074) = d.scale ∨
      (max (e - 52) (-1074) = d.scale - 1 ∧ d.units = 2 ^ 52 ∧
        |x / 2 ^ d.scale - d.units| ≤ 1 / 4) := by
  have hlt {a b : Int} (h : (2 : ℚ) ^ a < 2 ^ b) : a < b :=
    (zpow_lt_zpow_iff_right₀ one_lt_two).mp h
  have hbelow : e < 53 + d.scale := hlt (hlow.trans_lt (lt_of_attracts h))
  have hpos : (0 : ℚ) < 2 ^ d.scale := by positivity
  by_cases hlowest : d.exponentField ≤ 1
  · have hscale : d.scale = -1074 := by
      simp only [scale, Int.ofNat_eq_natCast]
      omega
    left
    omega
  have hscale : -1074 < d.scale := by
    simp only [scale, Int.ofNat_eq_natCast]
    omega
  by_cases hreached : (2 : ℚ) ^ (52 + d.scale) ≤ x
  · have hatLeast := hlt (hreached.trans_lt hhigh)
    left
    omega
  · -- The double begins a new power of two, and the number lies less than a quarter below it.
    have hless : x / 2 ^ d.scale < 2 ^ 52 := by
      rw [div_lt_iff₀ hpos, ← zpow_natCast, ← zpow_add₀ two_ne_zero]
      exact lt_of_not_ge hreached
    have hunits := units_of_exponent (d := d) (by omega)
    have hfraction : d.fraction = 0 := by
      have hnear := (abs_le.mp (isNearestWhole_of_attracts h).1).1
      rw [hunits] at hnear
      push_cast at hnear
      have hone : (d.fraction : ℚ) < 1 := by linarith
      exact Nat.lt_one_iff.mp (by exact_mod_cast hone)
    have hquarter := le_of_attracts_power h hfraction (by omega)
    have hpower : d.units = 2 ^ 52 := by rw [hunits, hfraction, zero_add]
    have hcast : (d.units : ℚ) = 2 ^ 52 := by exact_mod_cast hpower
    have hhalf : (2 : ℚ) ^ (51 + d.scale) ≤ x := by
      rw [zpow_add₀ two_ne_zero, ← le_div_iff₀ hpos]
      rw [hcast] at hquarter
      norm_num at hquarter ⊢
      linarith
    have hatLeast := hlt (hhalf.trans_lt hhigh)
    have hatMost := hlt (hlow.trans_lt (lt_of_not_ge hreached))
    refine .inr ⟨by omega, hpower, abs_le.mpr ⟨by linarith, by linarith⟩⟩

/-- The bits are the same if the units of a power of two are cut in half. -/
theorem place_eq_halves (hpower : d.units = 2 ^ 52) (hscale : -1074 ≤ d.scale - 1) :
    (d.scale - 1 + 1074).toNat * 2 ^ 52 + 2 * d.units = d.place := by
  have hnext : (d.scale + 1074).toNat = (d.scale - 1 + 1074).toNat + 1 := by omega
  rw [← place_eq_units, hnext, hpower]
  ring

theorem isNearestWhole_halves (hquarter : |x / 2 ^ d.scale - d.units| ≤ 1 / 4) :
    IsNearestWhole (x / 2 ^ (d.scale - 1)) (2 * d.units) := by
  have hdistance : (x / 2 ^ (d.scale - 1) - (2 * d.units : ℕ) : ℚ)
      = 2 * (x / 2 ^ d.scale - d.units) := by
    rw [zpow_sub₀ two_ne_zero, zpow_one]
    push_cast
    field_simp
  rw [IsNearestWhole, hdistance, abs_mul, abs_two]
  exact ⟨by linarith, fun _ => Nat.mul_mod_right 2 _⟩

/-- What a double attracts is rounded to it. -/
theorem nearest_of_attracts {num den : Nat} (hfinite : d.isFinite = true) (hden : 0 < den)
    (h : d.Attracts (num / den)) : nearest d.isNegative num den = d := by
  have hnear := isNearestWhole_of_attracts h
  unfold nearest
  split
  · rename_i hnum
    have hunits : d.units = 0 := by
      have habs := hnear.1
      rw [hnum, Nat.cast_zero, zero_div, zero_div, zero_sub, abs_neg, Nat.abs_cast] at habs
      have hone : (d.units : ℚ) < 1 := by linarith
      exact Nat.lt_one_iff.mp (by exact_mod_cast hone)
    exact ofMagnitudeBits_zero hunits
  · rename_i hnum
    obtain ⟨hlow, hhigh⟩ := zpow_floorLog2 (Nat.pos_of_ne_zero hnum) hden
    have hlargest := (place_lt_of_isFinite hfinite).le
    simp only [Nat.pow_eq]
    rcases scale_cases h hlow hhigh with hsame | ⟨hfiner, hpower, hquarter⟩
    · have hunits := roundHalfEven_scaled hden hnear
      simp only [Nat.pow_eq] at hunits
      rw [hsame, hunits, place_eq_units, Nat.min_eq_left hlargest, ofMagnitudeBits_place]
    · have hscale : -1074 ≤ d.scale - 1 := hfiner ▸ le_max_right _ _
      have hunits := roundHalfEven_scaled hden (isNearestWhole_halves hquarter)
      simp only [Nat.pow_eq] at hunits
      rw [hfiner, hunits, place_eq_halves hpower hscale, Nat.min_eq_left hlargest,
        ofMagnitudeBits_place]

/-! ## Decimals -/

/-- A positive number has its first digit at the power of ten that its digits name. -/
theorem ten_pow_length_natDigits {n : Nat} (hn : 0 < n) :
    10 ^ (Text.natDigits n).length ≤ 10 * n ∧ n < 10 ^ (Text.natDigits n).length := by
  have hlength {k : Nat} (hk : 0 < k) : (Text.natDigits n).length ≤ k ↔ n < 10 ^ k :=
    Nat.length_toDigits_le_iff (by decide) hk
  have hpos : 0 < (Text.natDigits n).length := List.length_pos_iff.mpr Nat.toDigits_ne_nil
  refine ⟨?_, (hlength hpos).mp le_rfl⟩
  generalize (Text.natDigits n).length = length at *
  match length with
  | 1 => omega
  | length + 2 =>
    have hshorter := (hlength (Nat.succ_pos length)).not.mp (by omega)
    rw [Nat.pow_succ]
    omega

/-- With a power of ten behind it, the first digit moves by as many places. -/
theorem ten_zpow_length_natDigits {n : Nat} (hn : 0 < n) (k : Int) :
    (10 : ℚ) ^ (k + (Text.natDigits n).length) ≤ 10 * (n * 10 ^ k) ∧
      (n * 10 ^ k : ℚ) < 10 ^ (k + (Text.natDigits n).length) := by
  obtain ⟨hle, hlt⟩ := ten_pow_length_natDigits hn
  have hle' : (10 : ℚ) ^ (Text.natDigits n).length ≤ 10 * n := by exact_mod_cast hle
  have hlt' : (n : ℚ) < 10 ^ (Text.natDigits n).length := by exact_mod_cast hlt
  have hpos : (0 : ℚ) < 10 ^ k := by positivity
  rw [zpow_add₀ (by norm_num), zpow_natCast, mul_comm ((10 : ℚ) ^ k), ← mul_assoc]
  exact ⟨mul_le_mul_of_nonneg_right hle' hpos.le, mul_lt_mul_of_pos_right hlt' hpos⟩

/-- A double other than zero attracts nothing below half of the least unit. -/
theorem units_eq_zero_of_attracts (hfinite : d.isFinite = true) (h : d.Attracts x)
    (hsmall : x < 2 ^ (-1075 : ℤ)) : d.units = 0 := by
  by_contra hunits
  have hone : (1 : ℚ) ≤ d.units := by exact_mod_cast Nat.pos_of_ne_zero hunits
  have hnear := (abs_le.mp (isNearestWhole_of_attracts h).1).1
  have hpos : (0 : ℚ) < 2 ^ d.scale := by positivity
  have hhalf : (1 / 2 : ℚ) * 2 ^ d.scale ≤ x := by
    rw [← le_div_iff₀ hpos]
    linarith
  have hleast : (2 : ℚ) ^ (-1075 : ℤ) ≤ 1 / 2 * 2 ^ d.scale := by
    calc (2 : ℚ) ^ (-1075 : ℤ) ≤ 2 ^ (d.scale - 1) :=
          zpow_le_zpow_right₀ one_le_two (by have := (scale_bounds hfinite).1; omega)
      _ = 1 / 2 * 2 ^ d.scale := by rw [zpow_sub₀ two_ne_zero, zpow_one]; ring
  linarith

/-- What a double attracts is rounded to it from its digits as well. -/
theorem ofDecimal_of_attracts {n : Nat} {k : Int} (hfinite : d.isFinite = true)
    (h : d.Attracts (n * 10 ^ k)) : ofDecimal d.isNegative n k = d := by
  have hten : (10 : ℚ) ≠ 0 := by norm_num
  -- Where no power is computed, the number lies beyond the least and the largest double.
  have hfew : 2 ^ 1075 ≤ 10 ^ 330 := by decide +kernel
  have hmany : 2 ^ 1024 ≤ 10 ^ 310 := by decide +kernel
  unfold ofDecimal
  simp only [Bool.or_eq_true, decide_eq_true_eq]
  split
  · rename_i hzero
    refine ofMagnitudeBits_zero (units_eq_zero_of_attracts hfinite h ?_)
    by_cases hn : n = 0
    · rw [hn, Nat.cast_zero, zero_mul]
      positivity
    · calc (n * 10 ^ k : ℚ) < 10 ^ (k + (Text.natDigits n).length) :=
            (ten_zpow_length_natDigits (by omega) k).2
        _ ≤ 10 ^ (-330 : ℤ) := zpow_le_zpow_right₀ (by norm_num) (by omega)
        _ ≤ 2 ^ (-1075 : ℤ) := by
          rw [zpow_neg, zpow_neg]
          exact inv_anti₀ (by positivity) (by exact_mod_cast hfew)
  · rename_i hzero
    have hn : 0 < n := by omega
    split
    · rename_i hlarge
      have hbelow : (n * 10 ^ k : ℚ) < 10 ^ (310 : ℤ) :=
        calc (n * 10 ^ k : ℚ) < 2 ^ (53 + d.scale) := lt_of_attracts h
          _ ≤ 2 ^ (1024 : ℤ) :=
            zpow_le_zpow_right₀ one_le_two (by have := (scale_bounds hfinite).2; omega)
          _ ≤ 10 ^ (310 : ℤ) := by exact_mod_cast hmany
      have habove : (10 : ℚ) ^ (311 : ℤ) ≤ 10 * (n * 10 ^ k) :=
        (zpow_le_zpow_right₀ (by norm_num) (by omega)).trans (ten_zpow_length_natDigits hn k).1
      rw [show (311 : ℤ) = 1 + 310 by norm_num, zpow_add₀ hten, zpow_one] at habove
      linarith
    · have hpower := zpow_mul_pow_neg 10 hten k
      split
      · rename_i hk
        apply nearest_of_attracts hfinite one_pos
        rw [Int.toNat_eq_zero.mpr (by omega : -k ≤ 0), pow_zero, mul_one] at hpower
        rw [hpower] at h
        simpa using h
      · rename_i hk
        apply nearest_of_attracts hfinite (Nat.pow_pos (by norm_num))
        rw [Int.toNat_eq_zero.mpr (by omega : k ≤ 0), pow_zero] at hpower
        rw [eq_inv_of_mul_eq_one_left hpower] at h
        simpa [div_eq_mul_inv] using h

end SqlTree.Double
