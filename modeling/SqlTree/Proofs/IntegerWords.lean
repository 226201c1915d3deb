-- Integers cast in words of sixty-four bits. Every operation on words is made beside the exact one
-- and has no result where the two differ, so what has a result in the end has nowhere overflowed,
-- saturated or been rounded.
import Mathlib.Tactic.IntervalCases
import SqlTree.Double.Rounding
import SqlTree.Proofs.IntegerCasting

namespace SqlTree

/-! ## Operations on words -/

namespace Words

/-- A word that an operation has given, if it is the exact result. -/
def exactly? (word : Int64) (exact : ℚ) : Option Int64 :=
  if (word.toInt : ℚ) = exact then some word else none

/-- The answer that a comparison has given, if it is the right one. -/
def rightly? (answer : Bool) (right : Prop) [Decidable right] : Option Bool :=
  if answer = decide right then some answer else none

/-- The word one, shifted to the left. -/
def shiftedOne? (places : Nat) : Option Int64 :=
  exactly? (1 <<< Int64.ofNat places) (2 ^ places)

/-- The difference of two words. -/
def difference? (a b : Int64) : Option Int64 :=
  exactly? (a - b) (a.toInt - b.toInt)

/-- A word with the opposite sign. -/
def negated? (a : Int64) : Option Int64 :=
  exactly? (-a) (-a.toInt)

end Words

namespace Double

open Words

/-- A finite double without its fraction. -/
def truncated (d : Double) : Int :=
  signed d.isNegative
    (if d.scale ≥ 0 then d.units * 2 ^ d.scale.toNat else d.units / 2 ^ (-d.scale).toNat)

/-- The word for a double: its fraction is cut off, what is too large becomes the word nearest to
it, and a NaN becomes zero. -/
def toWord (d : Double) : Int64 :=
  if d.isNaN then 0
  else if d.isFinite then Int64.ofInt (max (-2 ^ 63) (min d.truncated (2 ^ 63 - 1)))
  else if d.isNegative then Int64.minValue
  else Int64.maxValue

/-- The word for a double that is one exactly. -/
def toWord? (d : Double) : Option Int64 :=
  exactly? d.toWord d.value

/-- Whether a double lies below a word, which is made a double for it. -/
def below? (d : Double) (n : Int64) : Option Bool :=
  rightly? (d.lt (ofInt n.toInt)) (d.value < n.toInt)

/-- Whether a double reaches a word, which is made a double for it. -/
def reaches? (d : Double) (n : Int64) : Option Bool :=
  rightly? ((ofInt n.toInt).le d) (n.toInt ≤ d.value)

end Double

namespace Width

open Words

/-- The smallest and the largest integer of a width. -/
def limits? (width : Width) : Option (Int64 × Int64) :=
  if 8 ≤ width.bytes then some (Int64.minValue, Int64.maxValue)
  else do
    let high ← difference? (← shiftedOne? (8 * width.bytes - 1)) 1
    let low ← difference? (← negated? high) 1
    return (low, high)

def checkInWords? (width : Width) (n : Int64) : Option (Except CastError Value) := do
  let (low, high) ← width.limits?
  return if n < low || high < n then .error (.outOfRange (integerText n) width.sqlType)
    else .ok (.integer n)

def serializeInWords? (width : Width) : Value → Option (Except CastError Value)
  | .integer n => width.checkInWords? n
  | .float d =>
    if d.toInt?.isSome then do
      if (← d.below? Int64.minValue) || (← d.reaches? Int64.maxValue) then
        return .error (.outOfRange d.text width.sqlType)
      else width.checkInWords? (← d.toWord?)
    else some (.error (.invalid (.float d) width.sqlType))
  | .text s =>
    match Text.readInt (Text.trimChars s.toList) with
    | some n =>
      if fitsInt64 n then width.checkInWords? (Int64.ofInt n)
      else some (.error (.invalid (.text s) width.sqlType))
    | none => some (.error (.invalid (.text s) width.sqlType))
  | v => some (width.serialize v)

end Width

/-! ## No operation goes wrong -/

namespace Words

theorem exactly?_of_eq {word : Int64} {exact : ℚ} (h : (word.toInt : ℚ) = exact) :
    exactly? word exact = some word :=
  if_pos h

theorem bmod_of_fits {n : Int} (h : fitsInt64 n = true) : n.bmod (2 ^ 64) = n := by
  rw [Width.fitsInt64_iff] at h
  exact Int.bmod_eq_of_le (by omega) (by omega)

theorem difference?_of_fits {a b : Int64} (h : fitsInt64 (a.toInt - b.toInt) = true) :
    difference? a b = some (a - b) ∧ (a - b).toInt = a.toInt - b.toInt := by
  have hexact : (a - b).toInt = a.toInt - b.toInt := by
    rw [Int64.toInt_sub, bmod_of_fits h]
  exact ⟨exactly?_of_eq (by rw [hexact, Int.cast_sub]), hexact⟩

theorem negated?_of_fits {a : Int64} (h : fitsInt64 (-a.toInt) = true) :
    negated? a = some (-a) ∧ (-a).toInt = -a.toInt := by
  have hexact : (-a).toInt = -a.toInt := by
    rw [Int64.toInt_neg, bmod_of_fits h]
  exact ⟨exactly?_of_eq (by rw [hexact, Int.cast_neg]), hexact⟩

theorem shiftedOne?_of_lt {places : Nat} (h : places < 63) :
    ∃ word, shiftedOne? places = some word ∧ word.toInt = 2 ^ places := by
  have hexact : ((1 : Int64) <<< Int64.ofNat places).toInt = 2 ^ places := by
    interval_cases places <;> rfl
  exact ⟨_, exactly?_of_eq (by rw [hexact]; push_cast; rfl), hexact⟩

end Words

namespace Width

open Words

/-- The limits of a width are found without an overflow. -/
theorem exists_limits (width : Width) :
    ∃ low high, width.limits? = some (low, high) ∧
      low.toInt = -width.bound ∧ high.toInt = width.bound - 1 := by
  have hbytes := width.le
  unfold limits?
  by_cases hwhole : 8 ≤ width.bytes
  · have hbound : width.bound = 2 ^ 63 := by
      rw [bound_eq, show 8 * width.bytes - 1 = 63 by omega]
    refine ⟨_, _, if_pos hwhole, ?_, ?_⟩
    · rw [hbound]
      rfl
    · rw [hbound]
      rfl
  · have hle : width.bound ≤ 2 ^ 62 := by
      rw [bound_eq]
      exact pow_le_pow_right₀ (by norm_num) (by omega)
    have hge := width.le_bound
    obtain ⟨power, hshift, hpower⟩ := @shiftedOne?_of_lt (8 * width.bytes - 1) (by omega)
    rw [← bound_eq] at hpower
    have hone : (1 : Int64).toInt = 1 := rfl
    obtain ⟨hhigh, hhigh'⟩ := @difference?_of_fits power 1 (by rw [fitsInt64_iff]; omega)
    obtain ⟨hneg, hneg'⟩ := @negated?_of_fits (power - 1) (by rw [fitsInt64_iff]; omega)
    obtain ⟨hlow, hlow'⟩ := @difference?_of_fits (-(power - 1)) 1 (by rw [fitsInt64_iff]; omega)
    refine ⟨-(power - 1) - 1, power - 1, ?_, by omega, by omega⟩
    simp only [hwhole, if_false, hshift, hhigh, hneg, hlow, Option.bind_eq_bind, Option.bind_some,
      Option.pure_def]

/-- Words are checked as the integers that they are. -/
theorem checkInWords?_eq (width : Width) (n : Int64) :
    width.checkInWords? n = some (width.check n.toInt) := by
  obtain ⟨low, high, hlimits, hlow, hhigh⟩ := width.exists_limits
  unfold checkInWords?
  rw [hlimits]
  by_cases hrange : width.InRange n.toInt
  · have hin : ¬ (n < low ∨ high < n) := by
      rw [Int64.lt_iff_toInt_lt, Int64.lt_iff_toInt_lt, hlow, hhigh]
      have := hrange.1
      have := hrange.2
      omega
    rw [check_of_inRange hrange, Int64.ofInt_toInt]
    simp [hin]
  · have hout : n < low ∨ high < n := by
      rw [Int64.lt_iff_toInt_lt, Int64.lt_iff_toInt_lt, hlow, hhigh]
      unfold InRange at hrange
      omega
    rw [check_of_not_inRange hrange]
    simp [hout, integerText]

end Width

namespace Double

open Words

/-! ## Doubles at the ends of the range of words -/

/-- The least word is a double, `-2 ^ 63`. -/
theorem ofInt_minValue : ofInt Int64.minValue.toInt = ⟨0xC3E0000000000000⟩ := by decide +kernel

/-- The largest word is no double; the one next to it is `2 ^ 63`. -/
theorem ofInt_maxValue : ofInt Int64.maxValue.toInt = ⟨0x43E0000000000000⟩ := by decide +kernel

theorem value_of_fields {d : Double} {negative : Bool} {exponent fraction : Nat}
    (hsign : d.isNegative = negative) (hexponent : d.exponentField = exponent)
    (hfraction : d.fraction = fraction) :
    d.value = (if negative then -1 else 1)
      * (((if exponent = 0 then 0 else 1) + fraction / 2 ^ 52)
        * 2 ^ ((max exponent 1 : ℕ) - 1023 : ℤ)) := by
  rw [value, hsign, hexponent, hfraction]

theorem value_ofInt_minValue : (ofInt Int64.minValue.toInt).value = -2 ^ 63 := by
  rw [ofInt_minValue, @value_of_fields _ true 1086 0 (by decide) (by decide) (by decide)]
  norm_num

theorem value_ofInt_maxValue : (ofInt Int64.maxValue.toInt).value = 2 ^ 63 := by
  rw [ofInt_maxValue, @value_of_fields _ false 1086 0 (by decide) (by decide) (by decide)]
  norm_num

theorem denotes_ofInt_minValue :
    (Value.float (ofInt Int64.minValue.toInt)).Denotes (-2 ^ 63) := by
  refine ⟨by rw [ofInt_minValue]; decide, ?_⟩
  rw [value_ofInt_minValue]
  norm_num

theorem denotes_ofInt_maxValue :
    (Value.float (ofInt Int64.maxValue.toInt)).Denotes (2 ^ 63) := by
  refine ⟨by rw [ofInt_maxValue]; decide, ?_⟩
  rw [value_ofInt_maxValue]
  norm_num

/-- No double lies between the largest word and `2 ^ 63`. -/
theorem maxValue_le_value_iff {d : Double} : 2 ^ 63 - 1 ≤ d.value ↔ 2 ^ 63 ≤ d.value := by
  refine ⟨fun h => ?_, fun h => by linarith⟩
  by_contra hnot
  have hbelow : d.orderKey < (ofInt Int64.maxValue.toInt).orderKey := by
    rw [orderKey_lt_iff, value_ofInt_maxValue]
    linarith
  -- The neighbour below `2 ^ 63` is the largest double with the exponent before.
  have hnext : (ofInt Int64.maxValue.toInt).orderKey
      = (⟨0x43DFFFFFFFFFFFFF⟩ : Double).orderKey + 1 := by
    rw [ofInt_maxValue]
    decide
  have hvalue : (⟨0x43DFFFFFFFFFFFFF⟩ : Double).value = 2 ^ 63 - 2 ^ 10 := by
    rw [@value_of_fields _ false 1085 (2 ^ 52 - 1) (by decide) (by decide) (by decide)]
    norm_num
  have hle : ¬ (⟨0x43DFFFFFFFFFFFFF⟩ : Double).value < d.value := by
    rw [← orderKey_lt_iff]
    omega
  rw [hvalue] at hle
  linarith

theorem rightly?_of_iff {answer : Bool} {right : Prop} [Decidable right]
    (h : answer = true ↔ right) : rightly? answer right = some (decide right) := by
  have hanswer : answer = decide right := by
    rw [Bool.eq_iff_iff, h, decide_eq_true_iff]
  rw [hanswer]
  exact if_pos rfl

variable {d : Double}

/-- The test against the least word is exact. -/
theorem below?_minValue (h : d.isFinite = true) :
    d.below? Int64.minValue = some (decide (d.value < -2 ^ 63)) := by
  have hleast : (Int64.minValue.toInt : ℚ) = -2 ^ 63 := by
    rw [Int64.toInt_minValue]
    norm_num
  unfold below?
  rw [rightly?_of_iff]
  · simp only [hleast]
  · rw [lt_iff h (by rw [ofInt_minValue]; decide), value_ofInt_minValue, hleast]

/-- The test against the largest word is exact although the word is rounded for it. -/
theorem reaches?_maxValue (h : d.isFinite = true) :
    d.reaches? Int64.maxValue = some (decide (2 ^ 63 ≤ d.value)) := by
  have hlargest : (Int64.maxValue.toInt : ℚ) = 2 ^ 63 - 1 := by
    rw [Int64.toInt_maxValue]
    norm_num
  unfold reaches?
  rw [rightly?_of_iff]
  · simp only [hlargest, maxValue_le_value_iff]
  · rw [le_iff (by rw [ofInt_maxValue]; decide) h, value_ofInt_maxValue, hlargest,
      maxValue_le_value_iff]

theorem truncated_of_toInt? {z : Int} (h : d.toInt? = some z) : d.truncated = z := by
  rw [toInt?_eq] at h
  split at h
  · obtain ⟨k, hk, rfl⟩ := Option.map_eq_some_iff.mp h
    unfold truncated
    congr 1
    unfold wholeMagnitude? at hk
    split at hk
    · rename_i hscale
      cases hk
      rw [if_pos hscale]
      rfl
    · rename_i hscale
      simp only at hk
      split at hk
      · cases hk
        rw [if_neg hscale]
        rfl
      · cases hk
  · cases h

/-- A whole double within the range of words is one, and is not cut off or saturated. -/
theorem toWord?_of_fits {z : Int} (h : d.isFinite = true ∧ d.value = z)
    (hfits : fitsInt64 z = true) : d.toWord? = some (Int64.ofInt z) := by
  have htruncated := truncated_of_toInt? (toInt?_eq_some.mpr h)
  obtain ⟨hlow, hhigh⟩ := Width.fitsInt64_iff.mp hfits
  have hword : d.toWord = Int64.ofInt z := by
    rw [toWord, isNaN_of_isFinite h.1, h.1, htruncated, min_eq_left (by omega),
      max_eq_right (by omega)]
    rfl
  unfold toWord?
  rw [hword]
  apply exactly?_of_eq
  rw [Int64.toInt_ofInt_of_le hlow hhigh, h.2]

end Double

/-! ## The whole cast -/

namespace Width

theorem outside_eq_not_fitsInt64 (z : Int) :
    (decide ((z : ℚ) < -2 ^ 63) || decide (2 ^ 63 ≤ (z : ℚ))) = !fitsInt64 z := by
  have hlow : (z : ℚ) < -2 ^ 63 ↔ z < -2 ^ 63 := by norm_cast
  have hhigh : 2 ^ 63 ≤ (z : ℚ) ↔ 2 ^ 63 ≤ z := by norm_cast
  by_cases hfits : fitsInt64 z = true
  · have hz := fitsInt64_iff.mp hfits
    simp only [hlow, hhigh, hfits, Bool.not_true, Bool.or_eq_false_iff, decide_eq_false_iff_not]
    omega
  · have hz := fitsInt64_iff.not.mp hfits
    simp only [hlow, hhigh, hfits, Bool.not_false, Bool.or_eq_true, decide_eq_true_eq]
    omega

/-- Casting in words always has a result, and it is that of casting in exact integers. -/
theorem serializeInWords?_eq (width : Width) (v : Value) :
    width.serializeInWords? v = some (width.serialize v) := by
  cases v with
  | integer n => exact width.checkInWords?_eq n
  | float d =>
    cases hint : d.toInt? with
    | none => simp [serializeInWords?, serialize, hint]
    | some z =>
      have hd := Double.toInt?_eq_some.mp hint
      rw [serialize_float hd]
      simp only [serializeInWords?, hint, Option.isSome_some, if_true, Double.below?_minValue hd.1,
        Double.reaches?_maxValue hd.1, hd.2, Option.bind_eq_bind, Option.bind_some,
        outside_eq_not_fitsInt64]
      by_cases hfits : fitsInt64 z = true
      · obtain ⟨hlow, hhigh⟩ := fitsInt64_iff.mp hfits
        simp [hfits, Double.toWord?_of_fits hd hfits, checkInWords?_eq,
          Int64.toInt_ofInt_of_le hlow hhigh]
      · simp [hfits]
  | text s =>
    cases hint : Text.readInt (Text.trimChars s.toList) with
    | none => simp [serializeInWords?, serialize, hint]
    | some z =>
      rw [serialize_text (Text.readInt_trimChars.mp hint)]
      by_cases hfits : fitsInt64 z = true
      · obtain ⟨hlow, hhigh⟩ := fitsInt64_iff.mp hfits
        simp [serializeInWords?, hint, hfits, checkInWords?_eq,
          Int64.toInt_ofInt_of_le hlow hhigh]
      · simp [serializeInWords?, hint, hfits]
  | _ => rfl

end Width

/-! ## The law -/

namespace Caster

/-- An integer column of `n` bytes, at least one and at most eight, receives null for null and
otherwise exactly the integers within its range that a value denotes. Integers and whole doubles
beyond the range are out of range, however large they are. Carried out in words, the cast never
overflows, saturates or rounds. -/
theorem integers_are_cast_exactly (n : Nat) (v : Value) :
    let bound : Int := 2 ^ (8 * max 1 (min n 8) - 1)
    (∀ w, (ofBytes n).serialize v = .ok w →
      (w = .null ↔ v = .null) ∧ (w ≠ .null → ∃ z, w = .integer z)) ∧
    (∀ z : Int64, (ofBytes n).serialize v = .ok (.integer z) ↔
      v.Denotes z.toInt ∧ -bound ≤ z.toInt ∧ z.toInt < bound) ∧
    (∀ z : Int, v.isNumber = true → v.Denotes z →
      ((∃ w, (ofBytes n).serialize v = .ok w) ↔ -bound ≤ z ∧ z < bound) ∧
      (¬ (-bound ≤ z ∧ z < bound) →
        ∃ number, (ofBytes n).serialize v = .error (.outOfRange number (ofBytes n).sqlType))) ∧
    (Width.clamp n).serializeInWords? v = some ((ofBytes n).serialize v) := by
  intro bound
  -- The range of the column, in the words of the statement.
  have hrange (z : Int) : (Width.clamp n).InRange z ↔ -bound ≤ z ∧ z < bound := Iff.rfl
  refine ⟨?_, ?_, ?_, (Width.clamp n).serializeInWords?_eq v⟩
  · intro w hw
    refine ⟨Width.null_iff_of_serialize hw, ?_⟩
    intro hnull
    rcases Width.denotes_of_serialize hw with ⟨-, rfl⟩ | ⟨z, -, -, rfl⟩
    · exact absurd rfl hnull
    · exact ⟨_, rfl⟩
  · intro z
    rw [← hrange]
    exact Width.serialize_eq_integer
  · intro z hnumber hv
    rw [← hrange]
    refine ⟨Width.exists_serialize_iff hnumber hv, ?_⟩
    intro hz
    exact Width.serialize_of_not_inRange hv hz (.inl hnumber)

/-- The double `-2 ^ 63` is the least integer of eight bytes. Its opposite, which the largest
integer would be rounded to, is out of range, and so is one more than fits seven bytes. -/
theorem integers_are_cast_exactly_at_the_ends :
    let least : Value := .float (Double.ofInt Int64.minValue.toInt)
    let tooLarge : Value := .float (Double.ofInt Int64.maxValue.toInt)
    least.Denotes (-2 ^ 63) ∧ tooLarge.Denotes (2 ^ 63) ∧
    (ofBytes 8).serialize least = .ok (.integer Int64.minValue) ∧
    (∃ number, (ofBytes 9).serialize tooLarge = .error (.outOfRange number "bigint")) ∧
    (∃ number, (ofBytes 7).serialize (.integer 36028797018963968) =
      .error (.outOfRange number "bigint")) := by
  intro least tooLarge
  have hleast : least.Denotes (-2 ^ 63) := Double.denotes_ofInt_minValue
  have htooLarge : tooLarge.Denotes (2 ^ 63) := Double.denotes_ofInt_maxValue
  obtain ⟨-, hexact, -, -⟩ := integers_are_cast_exactly 8 least
  obtain ⟨-, -, hout, -⟩ := integers_are_cast_exactly 9 tooLarge
  obtain ⟨-, -, hseven, -⟩ := integers_are_cast_exactly 7 (.integer 36028797018963968)
  refine ⟨hleast, htooLarge, (hexact Int64.minValue).mpr ⟨hleast, by decide, by decide⟩, ?_, ?_⟩
  · exact (hout (2 ^ 63) rfl htooLarge).2 (by decide)
  · exact (hseven 36028797018963968 rfl rfl).2 (by decide)

end Caster

end SqlTree
