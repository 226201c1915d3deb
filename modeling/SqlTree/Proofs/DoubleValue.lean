-- The number that a finite double stands for, as an exact rational: when it is whole, and how it
-- is compared by the bits.
import Mathlib.Algebra.Order.Field.Rat
import Mathlib.Algebra.Order.Field.Power
import Mathlib.Tactic.FieldSimp
import Mathlib.Tactic.Linarith
import Mathlib.Tactic.Positivity
import Mathlib.Tactic.Ring
import SqlTree.Double.Basic

namespace SqlTree.Double

/-! ## Values -/

/-- The number that a finite double stands for: a sign, a significand with fifty-two binary places
and a power of two. The significand begins with one, in the lowest exponent with zero. -/
def value (d : Double) : ℚ :=
  (if d.isNegative then -1 else 1)
    * (((if d.exponentField = 0 then 0 else 1) + d.fraction / 2 ^ 52)
      * 2 ^ ((max d.exponentField 1 : ℕ) - 1023 : ℤ))

/-- The size of a finite double, in terms of its units. -/
def magnitude (d : Double) : ℚ := d.units * 2 ^ d.scale

theorem value_eq (d : Double) : d.value = (if d.isNegative then -1 else 1) * d.magnitude := by
  have hpower : (2 : ℚ) ^ ((max d.exponentField 1 : ℕ) - 1023 : ℤ) = 2 ^ d.scale * 2 ^ 52 := by
    rw [← zpow_natCast, ← zpow_add₀ two_ne_zero]
    congr 1
    simp only [scale, Int.ofNat_eq_natCast]
    omega
  have hunits : (d.units : ℚ)
      = ((if d.exponentField = 0 then 0 else 1) + d.fraction / 2 ^ 52) * 2 ^ 52 := by
    unfold units
    split
    · simp
    · push_cast [Nat.pow_eq]
      ring
  rw [value, magnitude, hpower, hunits]
  ring

theorem magnitude_nonneg (d : Double) : 0 ≤ d.magnitude := by
  unfold magnitude
  positivity

/-! ## Whole numbers -/

theorem wholeMagnitude?_eq_some {d : Double} {n : Nat} :
    d.wholeMagnitude? = some n ↔ d.magnitude = n := by
  unfold wholeMagnitude? magnitude
  by_cases hscale : d.scale ≥ 0
  · have hpower : (2 : ℚ) ^ d.scale = 2 ^ d.scale.toNat := by
      rw [← zpow_natCast, Int.toNat_of_nonneg hscale]
    rw [if_pos hscale, hpower, Option.some.injEq, Nat.pow_eq]
    norm_cast
  · have hcancel : (2 : ℚ) ^ d.scale * 2 ^ (-d.scale).toNat = 1 := by
      rw [← zpow_natCast, ← zpow_add₀ two_ne_zero, Int.toNat_of_nonneg (by omega),
        add_neg_cancel, zpow_zero]
    have hpos : (2 : ℚ) ^ (-d.scale).toNat ≠ 0 := by positivity
    -- Both sides times the number of parts in a whole.
    have hexact : (d.units : ℚ) * 2 ^ d.scale = n ↔ d.units = n * 2 ^ (-d.scale).toNat := by
      rw [← mul_left_inj' hpos, mul_assoc, hcancel, mul_one]
      norm_cast
    rw [if_neg hscale, hexact, Nat.pow_eq]
    have hparts : 0 < 2 ^ (-d.scale).toNat := Nat.two_pow_pos _
    generalize 2 ^ (-d.scale).toNat = parts at hparts
    constructor
    · intro h
      simp only at h
      split at h
      · rename_i hzero
        cases h
        exact (Nat.div_mul_cancel (Nat.dvd_of_mod_eq_zero hzero)).symm
      · cases h
    · intro h
      simp [h, hparts]

/-- An integer with a sign of its own. -/
def signed (negative : Bool) (n : Nat) : Int := if negative then -(n : Int) else n

theorem toInt?_eq (d : Double) :
    d.toInt? = if d.isFinite then d.wholeMagnitude?.map (signed d.isNegative) else none := by
  unfold toInt?
  cases d.wholeMagnitude? <;> rfl

theorem value_of_magnitude {d : Double} {n : Nat} (h : d.magnitude = n) :
    d.value = (signed d.isNegative n : ℤ) := by
  rw [value_eq, h, signed]
  split <;> simp

/-- Exactly the finite doubles with a whole value are taken for integers, each for its value. -/
theorem toInt?_eq_some {d : Double} {n : Int} :
    d.toInt? = some n ↔ d.isFinite = true ∧ d.value = n := by
  rw [toInt?_eq]
  by_cases hfinite : d.isFinite = true
  · rw [if_pos hfinite]
    constructor
    · intro h
      obtain ⟨k, hk, rfl⟩ := Option.map_eq_some_iff.mp h
      exact ⟨hfinite, value_of_magnitude (wholeMagnitude?_eq_some.mp hk)⟩
    · rintro ⟨-, h⟩
      have hmagnitude : d.magnitude = (n.natAbs : ℚ) := by
        have habs : |d.magnitude| = |(n : ℚ)| := by
          rw [← h, value_eq, abs_mul]
          split <;> simp
        rw [abs_of_nonneg d.magnitude_nonneg] at habs
        rw [habs, Nat.cast_natAbs, Int.cast_abs]
      rw [wholeMagnitude?_eq_some.mpr hmagnitude, Option.map_some, Option.some.injEq]
      exact_mod_cast (value_of_magnitude hmagnitude).symm.trans h
  · simp [hfinite]

/-! ## Order -/

/-- The bits of a double without its sign. -/
def place (d : Double) : Nat := d.exponentField * 2 ^ 52 + d.fraction

theorem fraction_lt (d : Double) : d.fraction < 2 ^ 52 := Nat.mod_lt _ (by decide)

/-- A double lies below the next power of two. -/
theorem magnitude_lt (d : Double) : d.magnitude < 2 ^ (d.exponentField - 1022 : ℤ) := by
  have hfraction : (d.fraction : ℚ) < 2 ^ 52 := by exact_mod_cast d.fraction_lt
  unfold magnitude units scale
  by_cases hzero : d.exponentField = 0
  · have hpower : (2 : ℚ) ^ (d.exponentField - 1022 : ℤ) = 2 ^ 52 * 2 ^ (-1074 : ℤ) := by
      rw [← zpow_natCast, ← zpow_add₀ two_ne_zero, hzero]
      rfl
    have hscale : Int.ofNat (max d.exponentField 1) - 1075 = -1074 := by rw [hzero]; rfl
    rw [if_pos hzero, hpower, hscale]
    exact mul_lt_mul_of_pos_right hfraction (by positivity)
  · have hscale : Int.ofNat (max d.exponentField 1) - 1075 = d.exponentField - 1075 := by
      simp only [Int.ofNat_eq_natCast]
      omega
    have hpower : (2 : ℚ) ^ (d.exponentField - 1022 : ℤ)
        = (2 ^ 52 + 2 ^ 52) * 2 ^ (d.exponentField - 1075 : ℤ) := by
      have hdouble : (2 : ℚ) ^ 52 + 2 ^ 52 = 2 ^ 53 := by norm_num
      rw [hdouble, ← zpow_natCast, ← zpow_add₀ two_ne_zero]
      congr 1
      push_cast
      ring
    rw [if_neg hzero, hpower, hscale]
    push_cast [Nat.pow_eq]
    exact mul_lt_mul_of_pos_right (by linarith) (by positivity)

/-- A double with an exponent of its own reaches the power of two that it names. -/
theorem zpow_le_magnitude {d : Double} (h : d.exponentField ≠ 0) :
    2 ^ (d.exponentField - 1023 : ℤ) ≤ d.magnitude := by
  have hscale : d.scale = d.exponentField - 1075 := by
    simp only [scale, Int.ofNat_eq_natCast]
    omega
  have hpower : (2 : ℚ) ^ (d.exponentField - 1023 : ℤ)
      = 2 ^ 52 * 2 ^ (d.exponentField - 1075 : ℤ) := by
    rw [← zpow_natCast, ← zpow_add₀ two_ne_zero]
    congr 1
    push_cast
    ring
  have hunits : (2 : ℚ) ^ 52 ≤ d.units := by
    have hfraction : (0 : ℚ) ≤ d.fraction := Nat.cast_nonneg d.fraction
    rw [units, if_neg h]
    push_cast [Nat.pow_eq]
    linarith
  rw [magnitude, hscale, hpower]
  exact mul_le_mul_of_nonneg_right hunits (by positivity)

theorem magnitude_lt_of_place_lt {a b : Double} (h : a.place < b.place) :
    a.magnitude < b.magnitude := by
  have ha := a.fraction_lt
  have hb := b.fraction_lt
  unfold place at h
  by_cases hexponent : a.exponentField = b.exponentField
  · -- In one exponent the units are equal, and their number decides.
    have hscale : a.scale = b.scale := by rw [scale, scale, hexponent]
    have hunits : a.units < b.units := by
      rw [units, units, hexponent]
      split <;> omega
    rw [magnitude, magnitude, hscale]
    exact mul_lt_mul_of_pos_right (by exact_mod_cast hunits) (by positivity)
  · have hlt : a.exponentField < b.exponentField := by omega
    calc a.magnitude < 2 ^ (a.exponentField - 1022 : ℤ) := a.magnitude_lt
      _ ≤ 2 ^ (b.exponentField - 1023 : ℤ) := zpow_le_zpow_right₀ (by norm_num) (by omega)
      _ ≤ b.magnitude := zpow_le_magnitude (by omega)

theorem magnitude_eq_of_place_eq {a b : Double} (h : a.place = b.place) :
    a.magnitude = b.magnitude := by
  have ha := a.fraction_lt
  have hb := b.fraction_lt
  unfold place at h
  have hexponent : a.exponentField = b.exponentField := by omega
  have hfraction : a.fraction = b.fraction := by omega
  rw [magnitude, magnitude, units, units, scale, scale, hexponent, hfraction]

theorem magnitude_lt_iff {a b : Double} : a.magnitude < b.magnitude ↔ a.place < b.place := by
  refine ⟨fun h => ?_, magnitude_lt_of_place_lt⟩
  rcases Nat.lt_trichotomy a.place b.place with hlt | heq | hgt
  · exact hlt
  · exact absurd h (magnitude_eq_of_place_eq heq).not_lt
  · exact absurd h (magnitude_lt_of_place_lt hgt).not_gt

theorem magnitude_pos_iff {d : Double} : 0 < d.magnitude ↔ 0 < d.place := by
  have hzero : (⟨0⟩ : Double).magnitude = 0 := by
    have hunits : (⟨0⟩ : Double).units = 0 := by decide
    simp [magnitude, hunits]
  have hplace : (⟨0⟩ : Double).place = 0 := by decide
  have h := @magnitude_lt_iff ⟨0⟩ d
  rwa [hzero, hplace] at h

/-- The bits of a double as an integer with its sign, which is how doubles are compared. -/
def orderKey (d : Double) : Int := signed d.isNegative d.place

/-- Doubles are ordered by their bits as by their values. -/
theorem orderKey_lt_iff {a b : Double} : a.orderKey < b.orderKey ↔ a.value < b.value := by
  have hlt := @magnitude_lt_iff a b
  have hgt := @magnitude_lt_iff b a
  have ha := @magnitude_pos_iff a
  have hb := @magnitude_pos_iff b
  have ha' := a.magnitude_nonneg
  have hb' := b.magnitude_nonneg
  rw [value_eq, value_eq, orderKey, orderKey]
  cases a.isNegative with
  | false =>
    cases b.isNegative with
    | false => simp [signed, hlt]
    | true =>
      simp only [signed, Bool.false_eq_true, if_true, if_false]
      constructor
      · intro h
        omega
      · intro h
        linarith
  | true =>
    cases b.isNegative with
    | false =>
      simp only [signed, Bool.false_eq_true, if_true, if_false]
      constructor
      · intro h
        have hplace : 0 < a.place ∨ 0 < b.place := by omega
        rcases hplace with hplace | hplace
        · linarith [ha.mpr hplace]
        · linarith [hb.mpr hplace]
      · intro h
        by_contra hnot
        have hza : ¬ 0 < a.magnitude := by rw [ha]; omega
        have hzb : ¬ 0 < b.magnitude := by rw [hb]; omega
        linarith
    | true => simp [signed, hgt]

/-- Whether a double is less than another; no NaN is. -/
def lt (a b : Double) : Bool := !a.isNaN && !b.isNaN && decide (a.orderKey < b.orderKey)

/-- Whether a double is at most another; no NaN is. -/
def le (a b : Double) : Bool := !a.isNaN && !b.isNaN && decide (a.orderKey ≤ b.orderKey)

theorem isNaN_of_isFinite {d : Double} (h : d.isFinite = true) : d.isNaN = false := by
  simp only [isFinite, bne_iff_ne, ne_eq] at h
  simp [isNaN, h]

theorem lt_iff {a b : Double} (ha : a.isFinite = true) (hb : b.isFinite = true) :
    a.lt b = true ↔ a.value < b.value := by
  rw [← orderKey_lt_iff]
  simp [lt, isNaN_of_isFinite ha, isNaN_of_isFinite hb]

theorem le_iff {a b : Double} (ha : a.isFinite = true) (hb : b.isFinite = true) :
    a.le b = true ↔ a.value ≤ b.value := by
  rw [← not_lt, ← orderKey_lt_iff]
  simp [le, isNaN_of_isFinite ha, isNaN_of_isFinite hb]

end SqlTree.Double
