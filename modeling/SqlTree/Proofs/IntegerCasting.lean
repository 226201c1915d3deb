-- Integer columns. Whatever denotes an integer is cast to exactly that integer if the column has
-- room for it, and nothing else but null is taken.
import SqlTree.Proofs.Candidates
import SqlTree.Proofs.DoubleValue
import SqlTree.Proofs.SignedNumerals

namespace SqlTree

/-! ## The integer that a value denotes -/

namespace Value

/-- A value denotes an integer: an integer itself, a truth value zero or one, a finite double its
exact value, and a text what it spells. -/
def Denotes : Value → Int → Prop
  | integer n, z => n.toInt = z
  | bool b, z => (if b then 1 else 0) = z
  | float d, z => d.isFinite = true ∧ d.value = z
  | text s, z => Text.Denotes s z
  | _, _ => False

def isNumber : Value → Bool
  | integer _ => true
  | float _ => true
  | _ => false

end Value

/-! ## The range of a column -/

namespace Width

variable {width : Width} {n : Int}

/-- The integers that a column has room for. -/
def InRange (width : Width) (n : Int) : Prop := -width.bound ≤ n ∧ n < width.bound

instance (width : Width) (n : Int) : Decidable (width.InRange n) := by
  unfold InRange; infer_instance

theorem bound_eq (width : Width) : width.bound = 2 ^ (8 * width.bytes - 1) := rfl

theorem bound_le (width : Width) : width.bound ≤ 2 ^ 63 := by
  have hbytes := width.le
  rw [bound_eq]
  exact pow_le_pow_right₀ (by norm_num) (by omega)

theorem le_bound (width : Width) : 2 ^ 7 ≤ width.bound := by
  have hbytes := width.pos
  rw [bound_eq]
  exact pow_le_pow_right₀ (by norm_num) (by omega)

theorem fitsInt64_iff : fitsInt64 n = true ↔ -2 ^ 63 ≤ n ∧ n < 2 ^ 63 := by
  simp [fitsInt64]

theorem InRange.fitsInt64 (h : width.InRange n) : fitsInt64 n = true := by
  have hbound := width.bound_le
  rw [fitsInt64_iff]
  exact ⟨by linarith [h.1], by linarith [h.2]⟩

theorem InRange.toInt_ofInt (h : width.InRange n) : (Int64.ofInt n).toInt = n := by
  obtain ⟨hlow, hhigh⟩ := fitsInt64_iff.mp h.fitsInt64
  exact Int64.toInt_ofInt_of_le hlow hhigh

theorem check_of_inRange (h : width.InRange n) :
    width.check n = .ok (.integer (Int64.ofInt n)) :=
  if_pos h

theorem check_of_not_inRange (h : ¬ width.InRange n) :
    width.check n = .error (.outOfRange (String.ofList (Text.intDigits n)) width.sqlType) :=
  if_neg h

theorem inRange_bool (width : Width) (b : Bool) : width.InRange (if b then 1 else 0) := by
  have hbound := width.le_bound
  cases b <;> simp [InRange] <;> omega

/-! ## Casting -/

variable {v w : Value} {z : Int}

theorem serialize_float {d : Double} (h : d.isFinite = true ∧ d.value = z) :
    width.serialize (.float d) =
      if fitsInt64 z then width.check z else .error (.outOfRange d.text width.sqlType) := by
  simp only [serialize, Double.toInt?_eq_some.mpr h]

theorem serialize_text {s : String} (h : Text.Denotes s z) :
    width.serialize (.text s) =
      if fitsInt64 z then width.check z else .error (.invalid (.text s) width.sqlType) := by
  simp only [serialize, Text.readInt_trimChars.mpr h]

/-- An integer that the column has room for is received as it is. -/
theorem serialize_of_inRange (hv : v.Denotes z) (h : width.InRange z) :
    width.serialize v = .ok (.integer (Int64.ofInt z)) := by
  cases v with
  | integer n =>
    cases hv
    exact check_of_inRange h
  | bool b =>
    cases hv
    cases b <;> rfl
  | float d => rw [serialize_float hv, if_pos h.fitsInt64, check_of_inRange h]
  | text s => rw [serialize_text hv, if_pos h.fitsInt64, check_of_inRange h]
  | _ => cases hv

/-- An integer that the column has no room for is out of range, however large it is. A text that
spells it has to fit a word. -/
theorem serialize_of_not_inRange (hv : v.Denotes z) (h : ¬ width.InRange z)
    (hsize : v.isNumber = true ∨ fitsInt64 z = true) :
    ∃ number, width.serialize v = .error (.outOfRange number width.sqlType) := by
  cases v with
  | integer n =>
    cases hv
    exact ⟨_, check_of_not_inRange h⟩
  | bool b =>
    cases hv
    exact absurd (inRange_bool width b) h
  | float d =>
    rw [serialize_float hv, check_of_not_inRange h]
    split
    · exact ⟨_, rfl⟩
    · exact ⟨_, rfl⟩
  | text s =>
    have hfits : fitsInt64 z = true := by simpa [Value.isNumber] using hsize
    rw [serialize_text hv, if_pos hfits, check_of_not_inRange h]
    exact ⟨_, rfl⟩
  | _ => cases hv

theorem inRange_of_check (h : width.check z = .ok w) :
    width.InRange z ∧ w = .integer (Int64.ofInt z) := by
  by_cases hz : width.InRange z
  · exact ⟨hz, Caster.integer_of_check h⟩
  · rw [check_of_not_inRange hz] at h
    cases h

/-- What a column receives, null apart, is denoted by the value and within the range. -/
theorem denotes_of_serialize (h : width.serialize v = .ok w) :
    (v = .null ∧ w = .null) ∨
      ∃ z, v.Denotes z ∧ width.InRange z ∧ w = .integer (Int64.ofInt z) := by
  cases v with
  | null =>
    cases h
    exact .inl ⟨rfl, rfl⟩
  | integer n =>
    obtain ⟨hz, hw⟩ := inRange_of_check h
    exact .inr ⟨n.toInt, rfl, hz, hw⟩
  | bool b =>
    cases h
    refine .inr ⟨if b then 1 else 0, rfl, inRange_bool width b, ?_⟩
    cases b <;> rfl
  | float d =>
    cases hint : d.toInt? with
    | none => simp [serialize, hint] at h
    | some z =>
      have hd := Double.toInt?_eq_some.mp hint
      rw [serialize_float hd] at h
      split at h
      · obtain ⟨hz, hw⟩ := inRange_of_check h
        exact .inr ⟨z, hd, hz, hw⟩
      · cases h
  | text s =>
    cases hint : Text.readInt (Text.trimChars s.toList) with
    | none => simp [serialize, hint] at h
    | some z =>
      have hs := Text.readInt_trimChars.mp hint
      rw [serialize_text hs] at h
      split at h
      · obtain ⟨hz, hw⟩ := inRange_of_check h
        exact .inr ⟨z, hs, hz, hw⟩
      · cases h
  | _ => cases h

theorem null_iff_of_serialize (h : width.serialize v = .ok w) : w = .null ↔ v = .null := by
  rcases denotes_of_serialize h with ⟨rfl, rfl⟩ | ⟨z, hv, -, rfl⟩
  · simp
  · simp only [reduceCtorEq, false_iff]
    rintro rfl
    cases hv

/-- A column receives an integer exactly for the values that denote it, if it is within range. -/
theorem serialize_eq_integer {n : Int64} :
    width.serialize v = .ok (.integer n) ↔ v.Denotes n.toInt ∧ width.InRange n.toInt := by
  constructor
  · intro h
    rcases denotes_of_serialize h with ⟨-, hnull⟩ | ⟨z, hv, hz, heq⟩
    · cases hnull
    · cases heq
      rw [hz.toInt_ofInt]
      exact ⟨hv, hz⟩
  · rintro ⟨hv, hn⟩
    rw [serialize_of_inRange hv hn, Int64.ofInt_toInt]

/-- Of the numbers that are integers, a column takes exactly those that it has room for. -/
theorem exists_serialize_iff (hnumber : v.isNumber = true) (hv : v.Denotes z) :
    (∃ w, width.serialize v = .ok w) ↔ width.InRange z := by
  refine ⟨?_, fun hz => ⟨_, serialize_of_inRange hv hz⟩⟩
  rintro ⟨w, hw⟩
  by_contra hz
  obtain ⟨number, herror⟩ := serialize_of_not_inRange hv hz (.inl hnumber)
  rw [herror] at hw
  cases hw

end Width

end SqlTree
