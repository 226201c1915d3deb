-- The digits that doubles are written with. The shortest decimal of a double lies in its basin, so
-- that the double is read back from what is laid out of it without an exponent.
import SqlTree.Double.Layout
import SqlTree.Proofs.DecimalNumerals

namespace SqlTree.Double

open Text

/-! ## Grids -/

/-- The steps and the units of a grid are powers of ten and of two, counted in one measure. -/
theorem Grid.exists_measure (q k : Int) :
    ∃ c : ℚ, 0 < c ∧ (ofPowers q k).step = 10 ^ k * c ∧ (ofPowers q k).unit = 2 ^ q * c := by
  have hten := zpow_mul_pow_neg 10 (by norm_num) k
  have htwo := zpow_mul_pow_neg 2 two_ne_zero q
  refine ⟨10 ^ (-k).toNat * 2 ^ (-q).toNat, by positivity, ?_, ?_⟩
  · rw [← mul_assoc, hten]
    simp [ofPowers]
  · rw [mul_left_comm, htwo]
    simp [ofPowers]

/-- Points of a grid compare with units as the numbers do that they stand for. -/
theorem Grid.le_iff (q k : Int) (n x : Nat) :
    n * (ofPowers q k).step ≤ x * (ofPowers q k).unit ↔ (n * 10 ^ k : ℚ) ≤ x * 2 ^ q := by
  obtain ⟨c, hc, hstep, hunit⟩ := exists_measure q k
  rw [← Nat.cast_le (α := ℚ), Nat.cast_mul, Nat.cast_mul, hstep, hunit, ← mul_assoc, ← mul_assoc]
  exact mul_le_mul_iff_of_pos_right hc

theorem Grid.lt_iff (q k : Int) (n x : Nat) :
    n * (ofPowers q k).step < x * (ofPowers q k).unit ↔ (n * 10 ^ k : ℚ) < x * 2 ^ q := by
  obtain ⟨c, hc, hstep, hunit⟩ := exists_measure q k
  rw [← Nat.cast_lt (α := ℚ), Nat.cast_mul, Nat.cast_mul, hstep, hunit, ← mul_assoc, ← mul_assoc]
  exact mul_lt_mul_iff_of_pos_right hc

theorem Grid.step_pos (q k : Int) : 0 < (ofPowers q k).step := by
  simp only [ofPowers, Nat.pow_eq]
  positivity

theorem Grid.unit_pos (q k : Int) : 0 < (ofPowers q k).unit := by
  simp only [ofPowers, Nat.pow_eq]
  positivity

/-! ## Picks -/

namespace Basin

/-- How an end of a basin and what lies in it compare: they may be equal if the basin is closed. -/
def Before (b : Basin) (m n : Nat) : Prop := if b.closed then m ≤ n else m < n

instance (b : Basin) (m n : Nat) : Decidable (b.Before m n) :=
  inferInstanceAs (Decidable (if b.closed then m ≤ n else m < n))

variable {b : Basin} {tie : Tie} {g : Grid} {q k : Int} {m n : Nat}

theorem before_of_lt (h : m < n) : b.Before m n := by
  unfold Before
  split
  · exact h.le
  · exact h

theorem le_of_not_before (h : ¬ b.Before m n) : n ≤ m := not_lt.mp (mt before_of_lt h)

/-- Whether a point of a grid lies in a basin, in the measure of the grid. -/
theorem contains_iff :
    b.Contains (n * 10 ^ k / 2 ^ q) ↔
      b.Before (b.low * (Grid.ofPowers q k).unit) (n * (Grid.ofPowers q k).step) ∧
        b.Before (n * (Grid.ofPowers q k).step) (b.high * (Grid.ofPowers q k).unit) := by
  have hpos : (0 : ℚ) < 2 ^ q := by positivity
  unfold Contains Before
  split
  · rw [le_div_iff₀ hpos, div_le_iff₀ hpos, ← Grid.le_iff, ← not_lt, ← Grid.lt_iff, not_lt]
  · rw [lt_div_iff₀ hpos, div_lt_iff₀ hpos, ← Grid.lt_iff, ← not_le, ← Grid.le_iff, not_le]

/-- One of the neighbours of the middle is picked, if it lies in the basin. -/
theorem pick?_cases (b : Basin) (tie : Tie) (g : Grid) :
    (∃ n, b.pick? tie g = some n ∧
      (n = b.mid * g.unit / g.step ∧ b.Before (b.low * g.unit) (n * g.step) ∨
        n = b.mid * g.unit / g.step + 1 ∧ b.Before (n * g.step) (b.high * g.unit))) ∨
    (b.pick? tie g = none ∧ b.mid * g.unit / g.step * g.step ≤ b.low * g.unit ∧
      b.high * g.unit ≤ (b.mid * g.unit / g.step + 1) * g.step) := by
  unfold pick?
  simp only [← Before.eq_def]
  generalize b.mid * g.unit / g.step = below
  by_cases hbelow : b.Before (b.low * g.unit) (below * g.step)
  · left
    by_cases habove : b.Before ((below + 1) * g.step) (b.high * g.unit)
    · -- Both neighbours lie in the basin, and the distances and the tie decide.
      have hone : ∀ n, n = below ∨ n = below + 1 →
          n = below ∧ b.Before (b.low * g.unit) (n * g.step) ∨
            n = below + 1 ∧ b.Before (n * g.step) (b.high * g.unit) := by
        rintro n (rfl | rfl)
        · exact .inl ⟨rfl, hbelow⟩
        · exact .inr ⟨rfl, habove⟩
      simp only [hbelow, habove, decide_true, Bool.and_self, if_true]
      cases tie <;> split_ifs <;> exact ⟨_, rfl, hone _ (by simp)⟩
    · simp [hbelow, habove]
  · by_cases habove : b.Before ((below + 1) * g.step) (b.high * g.unit)
    · simp [hbelow, habove]
    · right
      simpa [hbelow, habove] using ⟨le_of_not_before hbelow, le_of_not_before habove⟩

/-- What is picked lies in the basin. -/
theorem contains_of_pick? (hlow : b.low ≤ b.mid) (hhigh : b.mid < b.high)
    (h : b.pick? tie (Grid.ofPowers q k) = some n) : b.Contains (n * 10 ^ k / 2 ^ q) := by
  have hunit := Grid.unit_pos q k
  have hstep := Grid.step_pos q k
  rw [contains_iff]
  generalize Grid.ofPowers q k = g at *
  have hend : b.mid * g.unit < b.high * g.unit := Nat.mul_lt_mul_of_pos_right hhigh hunit
  have hstart : b.low * g.unit ≤ b.mid * g.unit := Nat.mul_le_mul_right _ hlow
  rcases b.pick?_cases tie g with ⟨n', hn', ⟨rfl, hin⟩ | ⟨rfl, hin⟩⟩ | ⟨hnone, -⟩
  · rw [h, Option.some.injEq] at hn'
    subst hn'
    exact ⟨hin, before_of_lt ((Nat.div_mul_le_self _ _).trans_lt hend)⟩
  · rw [h, Option.some.injEq] at hn'
    subst hn'
    refine ⟨before_of_lt (hstart.trans_lt ?_), hin⟩
    rw [Nat.mul_comm (_ + 1)]
    exact Nat.lt_mul_div_succ _ hstep
  · rw [h] at hnone
    cases hnone

/-- On a grid with steps that are less wide than the basin, something is picked. -/
theorem pick?_ne_none (hfine : (10 : ℚ) ^ k < (b.high - b.low) * 2 ^ q) :
    b.pick? tie (Grid.ofPowers q k) ≠ none := by
  obtain ⟨c, hc, hstep, hunit⟩ := Grid.exists_measure q k
  intro hpick
  rcases b.pick?_cases tie (Grid.ofPowers q k) with ⟨n, hn, -⟩ | ⟨-, hbelow, habove⟩
  · rw [hpick] at hn
    cases hn
  · rw [Nat.add_mul, Nat.one_mul] at habove
    have hwide : b.high * (Grid.ofPowers q k).unit ≤
        b.low * (Grid.ofPowers q k).unit + (Grid.ofPowers q k).step := by omega
    have hwide' : (b.high : ℚ) * (2 ^ q * c) ≤ b.low * (2 ^ q * c) + 10 ^ k * c := by
      rw [← hstep, ← hunit]
      exact_mod_cast hwide
    have hfine' := mul_lt_mul_of_pos_right hfine hc
    linarith

/-- If the last of the grids is fine enough, the first pick lies in the basin. -/
theorem contains_firstPick (tie : Tie) (hlow : b.low ≤ b.mid) (hhigh : b.mid < b.high) (tries : Nat)
    (k : Int) (hfine : (10 : ℚ) ^ (k - tries) < (b.high - b.low) * 2 ^ q) :
    let pick := b.firstPick tie q (tries + 1) k
    b.Contains (pick.1 * 10 ^ pick.2 / 2 ^ q) := by
  induction tries generalizing k with
  | zero =>
    unfold firstPick
    split
    · rename_i n hpick
      exact contains_of_pick? hlow hhigh hpick
    · rename_i hpick
      exact absurd hpick (pick?_ne_none (by simpa using hfine))
  | succ tries ih =>
    unfold firstPick
    split
    · rename_i n hpick
      exact contains_of_pick? hlow hhigh hpick
    · apply ih
      rwa [show k - 1 - (tries : Int) = k - (tries + 1 : ℕ) by omega]

end Basin

/-! ## The place of the first digit -/

/-- The logarithm to the base ten is guessed from the one to the base two, and is at most one too
large. -/
theorem ten_zpow_guess_le {L : Int} (hlow : -1100 ≤ L) (hhigh : L ≤ 1100) :
    (10 : ℚ) ^ (L * 30103 / 100000 - 1) ≤ 2 ^ L := by
  -- Powers with a common exponent compare as their bases do.
  have hroot {g : Int} (p q : ℕ) (hq : q ≠ 0) (hexponent : g * q ≤ p * L)
      (hbase : ((10 : ℚ) ^ p) ^ L ≤ (2 ^ q) ^ L) : (10 : ℚ) ^ g ≤ 2 ^ L := by
    refine (pow_le_pow_iff_left₀ (by positivity) (by positivity) hq).mp ?_
    calc ((10 : ℚ) ^ g) ^ q = 10 ^ (g * q) := by rw [zpow_mul, zpow_natCast]
      _ ≤ 10 ^ (p * L) := zpow_le_zpow_right₀ (by norm_num) hexponent
      _ = (10 ^ p) ^ L := by rw [zpow_mul, zpow_natCast]
      _ ≤ (2 ^ q) ^ L := hbase
      _ = (2 ^ L) ^ q := by rw [← zpow_natCast, ← zpow_natCast, ← zpow_mul, ← zpow_mul, mul_comm]
  by_cases hsign : 0 ≤ L
  · refine hroot 59 196 (by decide) (by omega) ?_
    exact zpow_le_zpow_left₀ hsign (by positivity) (by norm_num)
  · refine hroot 28 93 (by decide) (by omega) ?_
    have hle := zpow_le_zpow_left₀ (a := (2 : ℚ) ^ 93) (b := 10 ^ 28) (n := -L) (by omega)
      (by positivity) (by norm_num)
    rw [zpow_neg, zpow_neg] at hle
    exact (inv_le_inv₀ (by positivity) (by positivity)).mp hle

/-- A positive double reaches the power of two that its units begin with. -/
theorem two_zpow_log2_le_magnitude {d : Double} (hunits : d.units ≠ 0) :
    (2 : ℚ) ^ (d.units.log2 + d.scale : ℤ) ≤ d.magnitude := by
  have hlog : ((2 ^ d.units.log2 : ℕ) : ℚ) ≤ d.units := by
    exact_mod_cast Nat.log2_self_le hunits
  rw [zpow_add₀ two_ne_zero, zpow_natCast, magnitude]
  push_cast at hlog
  exact mul_le_mul_of_nonneg_right hlog (by positivity)

theorem quarters_eq_magnitude (d : Double) :
    ((4 * d.units : ℕ) : ℚ) * 2 ^ (d.scale - 2) = d.magnitude := by
  rw [magnitude, zpow_sub₀ two_ne_zero]
  push_cast
  ring

/-- The power of ten that is guessed for a double is at most the next one. -/
theorem ten_zpow_pointPosition_le {d : Double} (hfinite : d.isFinite = true)
    (hunits : d.units ≠ 0) :
    (10 : ℚ) ^ (d.pointPosition - 1) ≤ d.magnitude := by
  have hreached (k : Int) (h : (Grid.ofPowers (d.scale - 2) k).step
      ≤ 4 * d.units * (Grid.ofPowers (d.scale - 2) k).unit) : (10 : ℚ) ^ k ≤ d.magnitude := by
    have hle := (Grid.le_iff (d.scale - 2) k 1 (4 * d.units)).mp (by rwa [Nat.one_mul])
    rwa [Nat.cast_one, one_mul, quarters_eq_magnitude] at hle
  unfold pointPosition
  simp only [Int.ofNat_eq_natCast]
  split
  · rename_i hnext
    exact (zpow_le_zpow_right₀ (by norm_num) (by omega)).trans (hreached _ hnext)
  · split
    · rename_i hguess
      exact (zpow_le_zpow_right₀ (by norm_num) (by omega)).trans (hreached _ hguess)
    · have hlog : d.units.log2 < 53 := (Nat.log2_lt hunits).mpr d.units_lt
      obtain ⟨hlow, hhigh⟩ := scale_bounds hfinite
      exact (ten_zpow_guess_le (by omega) (by omega)).trans (two_zpow_log2_le_magnitude hunits)

/-- Seventeen digits are fine enough to tell a double from its neighbours. -/
theorem ten_zpow_lt_width {d : Double} (hfinite : d.isFinite = true) (hunits : d.units ≠ 0) :
    (10 : ℚ) ^ (d.pointPosition - 1 - (16 : ℕ)) <
      (d.basin.high - d.basin.low) * 2 ^ (d.scale - 2) := by
  have hpos : (0 : ℚ) < 2 ^ d.scale := by positivity
  have hwidth : (d.units : ℚ) / 10 ^ 16 < (d.basin.high - d.basin.low) / 4 := by
    have hhigh : (d.basin.high : ℚ) = 4 * d.units + 2 := by simp [basin]
    have hlow := d.basin_low_add hunits
    rw [hhigh, div_lt_iff₀ (by norm_num)]
    split at hlow
    · rename_i hpower
      have hunits : (d.units : ℚ) = 2 ^ 52 := by
        have hunits := units_of_exponent (d := d) (by omega)
        rw [hpower.1, zero_add] at hunits
        exact_mod_cast hunits
      have hlow' : (d.basin.low : ℚ) + 1 = 4 * d.units := by exact_mod_cast hlow
      linarith
    · have hlow' : (d.basin.low : ℚ) + 2 = 4 * d.units := by exact_mod_cast hlow
      have hlt : (d.units : ℚ) < 2 ^ 53 := by exact_mod_cast d.units_lt
      linarith
  calc (10 : ℚ) ^ (d.pointPosition - 1 - (16 : ℕ)) = 10 ^ (d.pointPosition - 1) / 10 ^ 16 := by
        rw [zpow_sub₀ (by norm_num), zpow_natCast]
    _ ≤ d.magnitude / 10 ^ 16 := by
        gcongr
        exact ten_zpow_pointPosition_le hfinite hunits
    _ = d.units / 10 ^ 16 * 2 ^ d.scale := by rw [magnitude]; ring
    _ < (d.basin.high - d.basin.low) / 4 * 2 ^ d.scale := mul_lt_mul_of_pos_right hwidth hpos
    _ = (d.basin.high - d.basin.low) * 2 ^ (d.scale - 2) := by
        rw [zpow_sub₀ two_ne_zero]
        ring

/-! ## Digits -/

/-- What a decimal stands for. -/
def Decimal.value (x : Decimal) : ℚ := placeValue x.digits * 10 ^ (x.point - x.digits.length)

/-- The zeros that digits end with. -/
theorem exists_zeros (ds : List Char) :
    ∃ n, ds = (ds.reverse.dropWhile (· == '0')).reverse ++ List.replicate n '0' := by
  have hzeros : ∀ c ∈ ds.reverse.takeWhile (· == '0'), c = '0' := by
    intro c hc
    simpa using List.mem_takeWhile_imp hc
  have hsplit := congrArg List.reverse
    (List.takeWhile_append_dropWhile (p := (· == '0')) (l := ds.reverse))
  rw [List.reverse_append, List.reverse_reverse, List.eq_replicate_of_mem hzeros,
    List.reverse_replicate] at hsplit
  exact ⟨_, hsplit.symm⟩

/-- The digits of a positive double are those of a number in its basin, without the zeros at the
end. -/
theorem shortest_of_units {d : Double} (tie : Tie) (hfinite : d.isFinite = true)
    (hunits : d.units ≠ 0) :
    ∃ (n : Nat) (k : Int) (zeros : Nat), 0 < n ∧ d.Attracts (n * 10 ^ k) ∧
      natDigits n = (d.shortest tie).digits ++ List.replicate zeros '0' ∧
      (d.shortest tie).point = k + (natDigits n).length := by
  have hlow := d.basin_low_add hunits
  have hbounds : 0 < d.basin.low ∧ d.basin.low ≤ d.basin.mid := by
    have hmid : d.basin.mid = 4 * d.units := rfl
    split at hlow <;> omega
  have hhigh : d.basin.mid < d.basin.high := by simp [basin]
  have hin := Basin.contains_firstPick tie hbounds.2 hhigh 16 _
    (ten_zpow_lt_width hfinite hunits)
  obtain ⟨zeros, hzeros⟩ := exists_zeros
    (natDigits (d.basin.firstPick tie (d.scale - 2) 17 (d.pointPosition - 1)).1)
  rw [shortest, if_neg hunits]
  refine ⟨_, _, zeros, Nat.pos_of_ne_zero fun hzero => ?_, hin, hzeros, rfl⟩
  have hle := hin.le.1
  rw [hzero, Nat.cast_zero, zero_mul, zero_div] at hle
  have hlow' : (0 : ℚ) < d.basin.low := by exact_mod_cast hbounds.1
  linarith

/-- The shortest decimal of a double lies in its basin. -/
theorem attracts_shortest {d : Double} (tie : Tie) (hfinite : d.isFinite = true) :
    d.Attracts (d.shortest tie).value := by
  by_cases hunits : d.units = 0
  · have hvalue : (d.shortest tie).value = 0 := by
      rw [shortest, if_pos hunits, Decimal.value]
      simp [placeValue, digitValue]
    rw [hvalue, Attracts, zero_div, Basin.Contains]
    simp [basin, hunits]
  · obtain ⟨n, k, zeros, -, hin, hdigits, hpoint⟩ := shortest_of_units tie hfinite hunits
    have hn : n = placeValue (d.shortest tie).digits * 10 ^ zeros := by
      rw [← placeValue_natDigits n, hdigits, placeValue_append, placeValue_zeros, add_zero,
        List.length_replicate]
    have hexponent : (d.shortest tie).point - (d.shortest tie).digits.length = zeros + k := by
      rw [hpoint, hdigits, List.length_append, List.length_replicate]
      omega
    have hvalue : (d.shortest tie).value = n * 10 ^ k := by
      rw [Decimal.value, hexponent, zpow_add₀ (by norm_num), zpow_natCast, hn]
      push_cast
      ring
    rwa [hvalue]

/-- The shortest decimal of a double has nothing but digits, and at least one. -/
theorem isNumeral_shortest {d : Double} (tie : Tie) (hfinite : d.isFinite = true) :
    IsNumeral (d.shortest tie).digits := by
  by_cases hunits : d.units = 0
  · rw [shortest, if_pos hunits]
    exact ⟨by simp, by simp [isDigit]⟩
  · obtain ⟨n, k, zeros, hn, -, hdigits, -⟩ := shortest_of_units tie hfinite hunits
    constructor
    · intro hnil
      have hvalue := placeValue_natDigits n
      rw [hdigits, hnil, List.nil_append, placeValue_zeros] at hvalue
      omega
    · intro c hc
      apply (isNumeral_natDigits n).2
      rw [hdigits]
      exact List.mem_append_left _ hc

/-! ## Texts -/

theorem Decimal.value_eq_div {x : Decimal} (places : Nat) (h : x.point + places = x.digits.length) :
    x.value = placeValue x.digits / 10 ^ places := by
  rw [value, show x.point - x.digits.length = -places by omega, zpow_neg, zpow_natCast,
    div_eq_mul_inv]

/-- Digits around a point denote what the decimal stands for. -/
theorem Decimal.unsignedDecimal_positional {x : Decimal} (h : IsNumeral x.digits) :
    UnsignedDecimal (x.positional []) x.value := by
  have hzeros (n : Nat) : ∀ c ∈ List.replicate n '0', isDigit c = true := by
    intro c hc
    rw [List.eq_of_mem_replicate hc]
    rfl
  unfold positional
  split
  · rename_i hpoint
    have hplaces : IsNumeral (List.replicate (-x.point).toNat '0' ++ x.digits) := by
      refine ⟨by simp [h.1], fun c hc => ?_⟩
      rcases List.mem_append.mp hc with hc | hc
      · exact hzeros _ c hc
      · exact h.2 c hc
    have hdigits : placeValue (['0'] ++ (List.replicate (-x.point).toNat '0' ++ x.digits)) =
        placeValue x.digits := by
      rw [placeValue_append, placeValue_append, placeValue_zeros,
        show placeValue ['0'] = 0 from placeValue_zeros 1]
      simp
    rw [value_eq_div (List.replicate (-x.point).toNat '0' ++ x.digits).length
      (by simp; omega), ← hdigits]
    exact .fraction ⟨by simp, hzeros 1⟩ hplaces
  · rename_i hpoint
    simp only
    split
    · rename_i hlength
      have hvalue : x.value =
          placeValue (x.digits ++ List.replicate (x.point.toNat - x.digits.length) '0') := by
        rw [placeValue_append, placeValue_zeros, List.length_replicate, value,
          show x.point - x.digits.length = (x.point.toNat - x.digits.length : ℕ) by omega,
          zpow_natCast]
        push_cast
        ring
      rw [List.append_nil, hvalue]
      exact .whole (h.append (hzeros _))
    · rename_i hlength
      rw [value_eq_div (x.digits.drop x.point.toNat).length (by simp; omega)]
      nth_rewrite 3 [← List.take_append_drop x.point.toNat x.digits]
      refine .fraction ⟨?_, fun c hc => h.2 c (List.mem_of_mem_take hc)⟩
        ⟨?_, fun c hc => h.2 c (List.mem_of_mem_drop hc)⟩
      · simp [h.1]
        omega
      · simp
        omega

/-- Without an exponent, a double is written as a number that it attracts, behind its sign. -/
theorem exists_format_plain {d : Double} (hfinite : d.isFinite = true) :
    ∃ cs x, UnsignedDecimal cs x ∧ d.Attracts x ∧
      d.format plain = if d.isNegative then '-' :: cs else cs :=
  ⟨_, _, Decimal.unsignedDecimal_positional (isNumeral_shortest .up hfinite),
    attracts_shortest .up hfinite, rfl⟩

theorem isDecimal_plain {d : Double} (hfinite : d.isFinite = true) :
    IsDecimal (d.format plain) := by
  obtain ⟨cs, x, hcs, -, hformat⟩ := exists_format_plain hfinite
  rw [hformat]
  split
  · exact ⟨_, .minus hcs⟩
  · exact ⟨_, .bare hcs⟩

/-- A double is read back from its text without an exponent. -/
theorem read?_plain {d : Double} (hfinite : d.isFinite = true) :
    read? (d.format plain) = some d := by
  obtain ⟨cs, x, hcs, hin, hformat⟩ := exists_format_plain hfinite
  have hread := readMagnitude_of_attracts hfinite hcs hin
  rw [hformat]
  split
  · rename_i hnegative
    rwa [hnegative] at hread
  · rename_i hpositive
    rw [Bool.not_eq_true] at hpositive
    rw [hpositive] at hread
    rwa [read?_of_isDigit hcs.isDigit_head]

theorem text_of_isFinite {d : Double} (h : d.isFinite = true) :
    d.text = String.ofList (d.format plain) := by
  rw [text, isNaN_of_isFinite h, h]
  rfl

end SqlTree.Double
