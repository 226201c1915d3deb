-- JSON values on their way through values. What becomes of a JSON value as a value is the same JSON
-- value again, exactly if its numbers fit. So a JSON column receives the same text whether it is
-- given the one or the other.
import SqlTree.Proofs.IntegerCasting
import SqlTree.Proofs.JsonColumns

namespace SqlTree

/-! ## Numbers that fit -/

/-- A value in which the numbers outside of objects are integers of sixty-four bits with their sign,
or finite doubles. -/
inductive Json.IsExact : Json → Prop
  | null : IsExact .null
  | bool (b : Bool) : IsExact (.bool b)
  | int {n : Int} (fits : fitsInt64 n = true) : IsExact (.number (.int n))
  | double {d : Double} (finite : d.isFinite = true) : IsExact (.number (.double d))
  | string (s : String) : IsExact (.string s)
  | array {items : List Json} (exact : ∀ j ∈ items, IsExact j) : IsExact (.array items)
  | object (fields : List (String × Json)) : IsExact (.object fields)

namespace Value

theorem ofJsonItems_eq_map (items : List Json) : ofJsonItems items = items.map ofJson := by
  induction items with
  | nil => rfl
  | cons j items ih => rw [ofJsonItems, ih, List.map_cons]

theorem toJsonItems_eq_map (items : List Value) : toJsonItems items = items.map toJson := by
  induction items with
  | nil => rfl
  | cons v items ih => rw [toJsonItems, ih, List.map_cons]

theorem toJson_ofJson_int (n : Int) :
    (ofJson (.number (.int n))).toJson = .number (.int n) ↔ fitsInt64 n = true := by
  rw [ofJson]
  by_cases hfits : fitsInt64 n = true
  · obtain ⟨hlow, hhigh⟩ := Width.fitsInt64_iff.mp hfits
    rw [if_pos hfits, toJson, Int64.toInt_ofInt_of_le hlow hhigh]
    simp [hfits]
  · -- The nearest double is written as a double, or not at all.
    rw [if_neg hfits, toJson, Double.toJson]
    split <;> simp [hfits]

theorem toJson_ofJson_double (d : Double) :
    (ofJson (.number (.double d))).toJson = .number (.double d) ↔ d.isFinite = true := by
  rw [ofJson, toJson, Double.toJson]
  split <;> simp_all

/-- A JSON value comes back from a value exactly if its numbers fit. -/
theorem toJson_ofJson_iff (j : Json) : (ofJson j).toJson = j ↔ j.IsExact := by
  induction j using Json.parts_induction with
  | null => exact ⟨fun _ => .null, fun _ => rfl⟩
  | bool b => exact ⟨fun _ => .bool b, fun _ => rfl⟩
  | string s => exact ⟨fun _ => .string s, fun _ => rfl⟩
  | object fields ih => exact ⟨fun _ => .object fields, fun _ => rfl⟩
  | number n =>
    cases n with
    | int n =>
      rw [toJson_ofJson_int]
      exact ⟨.int, fun h => by cases h with | int fits => exact fits⟩
    | double d =>
      rw [toJson_ofJson_double]
      exact ⟨.double, fun h => by cases h with | double finite => exact finite⟩
  | array items ih =>
    have hitems : (ofJson (.array items)).toJson = .array items ↔
        ∀ j ∈ items, (ofJson j).toJson = j := by
      rw [ofJson, toJson, ofJsonItems_eq_map, toJsonItems_eq_map, List.map_map, Json.array.injEq]
      conv_lhs => rhs; rw [← List.map_id items]
      exact List.map_inj_left
    rw [hitems]
    constructor
    · intro h
      exact .array fun j hj => (ih j hj).mp (h j hj)
    · intro h j hj
      cases h with
      | array exact => exact (ih j hj).mpr (exact j hj)

end Value

/-! ## JSON columns -/

/-- A JSON column receives the text of what a JSON value has become as a value. -/
theorem Caster.serialize_ofJson {c : Caster} (hc : c.kind = .json) {j : Json} (hj : j ≠ .null) :
    c.serialize (.ofJson j) = .ok (.text (Value.ofJson j).toJson.compact) := by
  have hserialize (sqlType : String) : serializeJson sqlType (.ofJson j) =
      .ok (.text (Value.ofJson j).toJson.compact) := by
    cases j with
    | null => exact absurd rfl hj
    | number n =>
      cases n with
      | int n =>
        rw [Value.ofJson]
        split <;> rfl
      | double d => rfl
    | _ => rfl
  cases c with
  | json | jsonb => exact hserialize _
  | _ => cases hc

/-! ## Elements of arrays -/

/-- The element that is found in nested arrays on the way that the positions give. -/
def Json.at? : List Nat → Json → Option Json
  | [], j => some j
  | i :: path, .array items => items[i]?.bind (at? path)
  | _ :: _, _ => none

/-- The element that is found in nested arrays on the way that the positions give. -/
def Value.at? : List Nat → Value → Option Value
  | [], v => some v
  | i :: path, .array items => items[i]?.bind (at? path)
  | _ :: _, _ => none

namespace Value

/-- Elements stay where they are. -/
theorem at?_ofJson (path : List Nat) (j : Json) :
    (ofJson j).at? path = (j.at? path).map ofJson := by
  induction path generalizing j with
  | nil => simp [at?, Json.at?]
  | cons i path ih =>
    cases j with
    | array items =>
      rw [ofJson, at?, Json.at?, ofJsonItems_eq_map, List.getElem?_map]
      cases items[i]? with
      | none => rfl
      | some k => exact ih k
    | number n =>
      cases n with
      | int n =>
        rw [ofJson]
        split <;> rfl
      | double d => rfl
    | _ => rfl

/-- Only null becomes null. -/
theorem ofJson_eq_null {j : Json} : ofJson j = .null ↔ j = .null := by
  cases j with
  | number n =>
    cases n with
    | int n =>
      rw [ofJson]
      split <;> simp
    | double d => simp [ofJson]
  | _ => simp [ofJson]

theorem at?_ofJson_eq_null {path : List Nat} {j : Json} :
    (ofJson j).at? path = some .null ↔ j.at? path = some .null := by
  rw [at?_ofJson, Option.map_eq_some_iff]
  simp [ofJson_eq_null]

end Value

/-! ## The law -/

/-- A JSON value comes back from a value exactly if its numbers outside of objects fit. Then JSON
columns receive the same text for the value as for the JSON value itself, which documents give them.
Nulls in arrays, however deep they lie, are nulls on the way and afterwards. -/
theorem Json.both_ways_into_json_columns_agree (j : Json) :
    ((Value.ofJson j).toJson = j ↔ j.IsExact) ∧
    (j.IsExact → j ≠ .null → ∀ c ∈ [Caster.json, Caster.jsonb],
      c.serialize (.ofJson j) = c.serialize (.json j) ∧
      c.serialize (.json j) = .ok (.text j.compact) ∧ Document.columnValue c j = .json j) ∧
    (j.IsExact → ∀ path,
      ((Value.ofJson j).at? path = some .null ↔ j.at? path = some .null) ∧
      ((Value.ofJson j).toJson.at? path = some .null ↔ j.at? path = some .null)) := by
  refine ⟨Value.toJson_ofJson_iff j, ?_, ?_⟩
  · intro hexact hnull c hc
    have hkind : c.kind = .json := by
      simp only [List.mem_cons, List.not_mem_nil, or_false] at hc
      rcases hc with rfl | rfl <;> rfl
    refine ⟨?_, Caster.serialize_json hkind j, Document.columnValue_of_json hkind hnull⟩
    rw [Caster.serialize_ofJson hkind hnull, (Value.toJson_ofJson_iff j).mpr hexact,
      Caster.serialize_json hkind]
  · intro hexact path
    rw [(Value.toJson_ofJson_iff j).mpr hexact]
    exact ⟨Value.at?_ofJson_eq_null, Iff.rfl⟩

/-- The least integer, the double minus zero and nulls two arrays deep, beside an object with an
integer that is too large for a word. -/
theorem Json.both_ways_into_json_columns_agree_in_nested_arrays :
    let large : Json := .object [("n", .number (.int 18446744073709551615))]
    let inner : Json := .array [.null, .number (.int (-9223372036854775808)), .null]
    let j : Json := .array [inner, .number (.double ⟨0x8000000000000000⟩), large]
    (Value.ofJson j).toJson = j ∧
      Caster.jsonb.serialize (.ofJson j) = Caster.jsonb.serialize (.json j) ∧
      (Value.ofJson j).at? [0, 2] = some .null ∧
      (Value.ofJson j).toJson.at? [0, 2] = some .null := by
  intro large inner j
  have hinner : inner.IsExact := by
    refine .array ?_
    simp only [List.forall_mem_cons]
    exact ⟨.null, .int (by decide), .null, by simp⟩
  have hj : j.IsExact := by
    refine .array ?_
    simp only [List.forall_mem_cons]
    exact ⟨hinner, .double (by decide), .object _, by simp⟩
  obtain ⟨hback, hcolumns, hnulls⟩ := Json.both_ways_into_json_columns_agree j
  obtain ⟨hvalue, hjson⟩ := hnulls hj [0, 2]
  exact ⟨hback.mpr hj, (hcolumns hj (by simp [j]) .jsonb (by simp)).1, hvalue.mpr rfl,
    hjson.mpr rfl⟩

end SqlTree
