-- The two zeros. Equality of values does not tell them apart, and is equality of the values without
-- the signs of their zeros. A column takes a value or refuses it whatever the signs, and a list of
-- values keeps its candidates.
import SqlTree.Proofs.ArrayCasting
import SqlTree.Proofs.CandidateFilter
import SqlTree.Proofs.JsonPrinting

namespace SqlTree

/-! ## Values without signs at their zeros -/

/-- The number, or positive zero for either zero. -/
def Double.unsign (d : Double) : Double := if d.isZero then ⟨0⟩ else d

namespace Json

/-- The number without the sign of a zero. -/
def Number.unsign : Number → Number
  | .int n => .int n
  | .double d => .double d.unsign

mutual
/-- The value with positive zeros only. -/
def unsign : Json → Json
  | number n => number n.unsign
  | array items => array (unsignItems items)
  | object fields => object (unsignFields fields)
  | j => j

def unsignItems : List Json → List Json
  | [] => []
  | j :: js => unsign j :: unsignItems js

def unsignFields : List (String × Json) → List (String × Json)
  | [] => []
  | (k, j) :: rest => (k, unsign j) :: unsignFields rest
end

end Json

namespace Value

mutual
/-- The value with positive zeros only. -/
def unsign : Value → Value
  | float d => float d.unsign
  | json j => json j.unsign
  | array items => array (unsignItems items)
  | v => v

def unsignItems : List Value → List Value
  | [] => []
  | v :: vs => unsign v :: unsignItems vs
end

theorem unsignItems_eq_map (vs : List Value) : unsignItems vs = vs.map unsign := by
  induction vs with
  | nil => rfl
  | cons v vs ih => rw [unsignItems, ih, List.map_cons]

theorem isNull_unsign (v : Value) : v.unsign.isNull = v.isNull := by
  cases v <;> rfl

end Value

/-! ## Taking signs off twice -/

theorem Double.unsign_unsign (d : Double) : d.unsign.unsign = d.unsign := by
  unfold unsign
  split
  · exact if_pos (by decide)
  · rfl

namespace Json

theorem unsignItems_unsignItems {items : List Json} (h : ∀ j ∈ items, j.unsign.unsign = j.unsign) :
    unsignItems (unsignItems items) = unsignItems items := by
  induction items with
  | nil => rfl
  | cons j js ih =>
    obtain ⟨hj, hjs⟩ := List.forall_mem_cons.mp h
    rw [unsignItems, unsignItems, hj, ih hjs]

theorem unsignFields_unsignFields {fields : List (String × Json)}
    (h : ∀ field ∈ fields, field.2.unsign.unsign = field.2.unsign) :
    unsignFields (unsignFields fields) = unsignFields fields := by
  induction fields with
  | nil => rfl
  | cons field fields ih =>
    obtain ⟨hfield, hfields⟩ := List.forall_mem_cons.mp h
    rw [unsignFields, unsignFields, hfield, ih hfields]

theorem unsign_unsign (j : Json) : j.unsign.unsign = j.unsign := by
  induction j using parts_induction with
  | null | bool b | string s => rfl
  | number n =>
    cases n with
    | int n => rfl
    | double d => exact congrArg (fun d => Json.number (.double d)) d.unsign_unsign
  | array items ih => exact congrArg Json.array (unsignItems_unsignItems ih)
  | object fields ih => exact congrArg Json.object (unsignFields_unsignFields ih)

end Json

theorem Value.unsign_unsign (v : Value) : v.unsign.unsign = v.unsign := by
  induction v using array_induction with
  | leaf v hv =>
    cases v with
    | array items => exact absurd rfl (hv items)
    | float d => exact congrArg Value.float d.unsign_unsign
    | json j => exact congrArg Value.json j.unsign_unsign
    | _ => rfl
  | array items ih =>
    rw [unsign, unsign, unsignItems_eq_map, unsignItems_eq_map, List.map_map]
    exact congrArg Value.array (List.map_congr_left ih)

/-! ## Equality -/

namespace Double

variable {a b : Double}

theorem isNaN_of_isZero (h : a.isZero = true) : a.isNaN = false := by
  obtain ⟨hfinite, -⟩ : a.isFinite = true ∧ a.units = 0 := by simpa [isZero] using h
  have hexponent : (a.exponentField == 2047) = false := by simpa [isFinite] using hfinite
  simp [isNaN, hexponent]

/-- Two numbers are equal if they are no NaN and agree but for the signs of zeros. -/
theorem same_iff : a.same b = true ↔ a.same a = true ∧ a.unsign = b.unsign := by
  have hself : a.same a = true ↔ a.isNaN = false := by simp [same]
  have hsame : a.same b = true ↔ (a.isNaN = false ∧ b.isNaN = false) ∧
      (a = b ∨ a.isZero = true ∧ b.isZero = true) := by simp [same]
  have hzero : isZero ⟨0⟩ = true := by decide
  rw [hself, hsame]
  constructor
  · rintro ⟨⟨ha, -⟩, rfl | ⟨hza, hzb⟩⟩
    · exact ⟨ha, rfl⟩
    · exact ⟨ha, by rw [unsign, unsign, if_pos hza, if_pos hzb]⟩
  · rintro ⟨ha, h⟩
    unfold unsign at h
    by_cases hza : a.isZero = true
    · have hzb : b.isZero = true := by
        by_contra hzb
        rw [if_pos hza, if_neg hzb] at h
        exact hzb (h ▸ hzero)
      exact ⟨⟨ha, isNaN_of_isZero hzb⟩, .inr ⟨hza, hzb⟩⟩
    · have hzb : ¬ b.isZero = true := by
        intro hzb
        rw [if_neg hza, if_pos hzb] at h
        exact hza (h ▸ hzero)
      rw [if_neg hza, if_neg hzb] at h
      subst h
      exact ⟨⟨ha, ha⟩, .inl rfl⟩

end Double

namespace Json

theorem Number.same_iff {a b : Number} :
    a.same b = true ↔ a.same a = true ∧ a.unsign = b.unsign := by
  cases a with
  | int n => cases b <;> simp [same, unsign]
  | double d =>
    cases b with
    | int m => simp [same, unsign]
    | double e => simpa [same, unsign] using Double.same_iff

theorem sameItems_iff {as bs : List Json}
    (h : ∀ a ∈ as, ∀ b, a.same b = true ↔ a.same a = true ∧ a.unsign = b.unsign) :
    sameItems as bs = true ↔ sameItems as as = true ∧ unsignItems as = unsignItems bs := by
  induction as generalizing bs with
  | nil => cases bs <;> simp [sameItems, unsignItems]
  | cons a as ih =>
    obtain ⟨ha, has⟩ := List.forall_mem_cons.mp h
    cases bs with
    | nil => simp [sameItems, unsignItems]
    | cons b bs =>
      simp only [sameItems, unsignItems, Bool.and_eq_true, List.cons.injEq]
      rw [ha b, @ih bs has]
      exact and_and_and_comm

theorem sameFields_iff {as bs : List (String × Json)}
    (h : ∀ a ∈ as, ∀ b, a.2.same b = true ↔ a.2.same a.2 = true ∧ a.2.unsign = b.unsign) :
    sameFields as bs = true ↔ sameFields as as = true ∧ unsignFields as = unsignFields bs := by
  induction as generalizing bs with
  | nil => cases bs <;> simp [sameFields, unsignFields]
  | cons a as ih =>
    obtain ⟨ha, has⟩ := List.forall_mem_cons.mp h
    cases bs with
    | nil => simp [sameFields, unsignFields]
    | cons b bs =>
      simp only [sameFields, unsignFields, Bool.and_eq_true, List.cons.injEq, Prod.mk.injEq,
        beq_iff_eq, true_and]
      rw [ha b.2, @ih bs has]
      tauto

/-- Two values are equal if there is no NaN in them and they agree but for the signs of zeros. -/
theorem same_iff (a b : Json) : a.same b = true ↔ a.same a = true ∧ a.unsign = b.unsign := by
  induction a using parts_induction generalizing b with
  | null => cases b <;> simp [same, unsign]
  | bool x => cases b <;> simp [same, unsign]
  | string s => cases b <;> simp [same, unsign]
  | number n =>
    cases b with
    | number m => simpa [same, unsign] using Number.same_iff
    | _ => simp [same, unsign]
  | array items ih =>
    cases b with
    | array others => simpa [same, unsign] using sameItems_iff ih
    | _ => simp [same, unsign]
  | object fields ih =>
    cases b with
    | object others => simpa [same, unsign] using sameFields_iff ih
    | _ => simp [same, unsign]

end Json

namespace Value

theorem sameItems_iff_of_items {as bs : List Value}
    (h : ∀ a ∈ as, ∀ b, a.same b = true ↔ a.same a = true ∧ a.unsign = b.unsign) :
    sameItems as bs = true ↔ sameItems as as = true ∧ unsignItems as = unsignItems bs := by
  induction as generalizing bs with
  | nil => cases bs <;> simp [sameItems, unsignItems]
  | cons a as ih =>
    obtain ⟨ha, has⟩ := List.forall_mem_cons.mp h
    cases bs with
    | nil => simp [sameItems, unsignItems]
    | cons b bs =>
      simp only [sameItems, unsignItems, Bool.and_eq_true, List.cons.injEq]
      rw [ha b, @ih bs has]
      exact and_and_and_comm

/-- Two values are equal if there is no NaN in them and they agree but for the signs of zeros. -/
theorem same_iff (a b : Value) : a.same b = true ↔ a.same a = true ∧ a.unsign = b.unsign := by
  induction a using array_induction generalizing b with
  | array items ih =>
    cases b with
    | array others => simpa [same, unsign] using sameItems_iff_of_items ih
    | _ => simp [same, unsign]
  | leaf a ha =>
    cases a with
    | array items => exact absurd rfl (ha items)
    | float d =>
      cases b with
      | float e => simpa [same, unsign] using Double.same_iff
      | _ => simp [same, unsign]
    | json j =>
      cases b with
      | json k => simpa [same, unsign] using Json.same_iff j k
      | _ => simp [same, unsign]
    | _ => cases b <;> simp [same, unsign]

theorem sameItems_iff (as bs : List Value) :
    sameItems as bs = true ↔ sameItems as as = true ∧ as.map unsign = bs.map unsign := by
  rw [← unsignItems_eq_map, ← unsignItems_eq_map]
  exact sameItems_iff_of_items fun a _ => same_iff a

theorem sameItems_self {vs : List Value} :
    sameItems vs vs = true ↔ ∀ v ∈ vs, v.same v = true := by
  induction vs with
  | nil => simp [sameItems]
  | cons v vs ih => simp [sameItems, ih]

end Value

/-! ## Casting -/

/-- How a cast ends: with a value, with a number out of range, or otherwise refused. -/
inductive Outcome where
  | taken
  | outOfRange
  | refused
deriving DecidableEq, Repr

/-- How a cast has ended. -/
def Outcome.of {α : Type} : Except CastError α → Outcome
  | .ok _ => .taken
  | .error e => if e.isOutOfRange then .outOfRange else .refused

theorem Outcome.of_eq_taken {α : Type} {r : Except CastError α} :
    Outcome.of r = .taken ↔ ∃ a, r = .ok a := by
  cases r with
  | ok a => simp [Outcome.of]
  | error e => cases h : e.isOutOfRange <;> simp [Outcome.of, h]

/-- Computations that end alike and go on with what ends alike end alike. -/
theorem Outcome.of_bind {α β : Type} {r r' : Except CastError α} {f f' : α → Except CastError β}
    (h : Outcome.of r = Outcome.of r') (hf : ∀ a a', Outcome.of (f a) = Outcome.of (f' a')) :
    Outcome.of (r >>= f) = Outcome.of (r' >>= f') := by
  cases r with
  | ok a =>
    obtain ⟨a', rfl⟩ := Outcome.of_eq_taken.mp h.symm
    exact hf a a'
  | error e =>
    cases r' with
    | ok a' =>
      obtain ⟨a, ha⟩ := Outcome.of_eq_taken.mp h
      cases ha
    | error e' => exact h

theorem Double.toInt?_of_isZero {d : Double} (h : d.isZero = true) : d.toInt? = some 0 := by
  obtain ⟨hfinite, hunits⟩ : d.isFinite = true ∧ d.units = 0 := by simpa [isZero] using h
  have hwhole : d.wholeMagnitude? = some 0 := by
    unfold wholeMagnitude?
    simp [hunits]
  rw [toInt?, if_pos hfinite, hwhole]
  cases d.isNegative <;> rfl

namespace Caster

/-- An integer column does not see the sign of a zero. -/
theorem serialize_integer_unsign (w : Width) (d : Double) :
    w.serialize (.float d.unsign) = w.serialize (.float d) := by
  by_cases hzero : d.isZero = true
  · have hpositive : Double.toInt? ⟨0⟩ = some 0 := Double.toInt?_of_isZero (by decide)
    have hfits : fitsInt64 0 = true := by decide
    rw [Double.unsign, if_pos hzero]
    simp only [Width.serialize, Double.toInt?_of_isZero hzero, hpositive, hfits, if_true]
  · rw [Double.unsign, if_neg hzero]

section

variable {cast : Value → Except CastError Value}

theorem outcome_castItems_unsign {vs : List Value}
    (h : ∀ v ∈ vs, Outcome.of (castLeaves cast v.unsign) = Outcome.of (castLeaves cast v)) :
    Outcome.of (castItems cast (Value.unsignItems vs)) = Outcome.of (castItems cast vs) := by
  induction vs with
  | nil => rfl
  | cons v vs ih =>
    obtain ⟨hv, hvs⟩ := List.forall_mem_cons.mp h
    rw [Value.unsignItems, castItems, castItems]
    exact Outcome.of_bind hv fun _ _ => Outcome.of_bind (ih hvs) fun _ _ => rfl

theorem outcome_castLeaves_unsign
    (h : ∀ v, Outcome.of (cast v.unsign) = Outcome.of (cast v)) (v : Value) :
    Outcome.of (castLeaves cast v.unsign) = Outcome.of (castLeaves cast v) := by
  induction v using Value.array_induction with
  | leaf v hv =>
    have hunsigned : ∀ items, v.unsign ≠ .array items := by
      cases v with
      | array items => exact absurd rfl (hv items)
      | _ => simp [Value.unsign]
    rw [castLeaves_of_ne_array hv, castLeaves_of_ne_array hunsigned]
    exact h v
  | array items ih =>
    rw [Value.unsign, castLeaves, castLeaves]
    exact Outcome.of_bind (outcome_castItems_unsign ih) fun _ _ => rfl

end

/-- A column takes a value or refuses it whatever the signs of its zeros. -/
theorem outcome_serialize_unsign (c : Caster) (v : Value) :
    Outcome.of (c.serialize v.unsign) = Outcome.of (c.serialize v) := by
  induction c generalizing v with
  | integer w =>
    cases v with
    | float d => exact congrArg Outcome.of (serialize_integer_unsign w d)
    | _ => rfl
  | array element delimiter ih =>
    cases v with
    | array items =>
      have hitems :=
        outcome_castItems_unsign fun v (_ : v ∈ items) => outcome_castLeaves_unsign ih v
      exact Outcome.of_bind hitems fun _ _ => rfl
    | _ => rfl
  | _ => cases v <;> rfl

/-- Whether the sign of a zero shows in what a column receives. In an array it shows if it does in
an element. Elements that are arrays themselves have no zeros: each leaf goes through the caster of
the elements, and one for arrays refuses numbers. -/
def showsZeros : Caster → Bool
  | float | text | json | jsonb => true
  | array (array _ _) _ => false
  | array element _ => element.showsZeros
  | _ => false

/-- Whether the sign of a zero shows in a text that a column receives. -/
def writesZeros (c : Caster) : Bool := c.showsZeros && c != .float

/-- What is no array is received alike whatever the sign of a zero, by a column of arrays and by one
that does not show the sign. -/
theorem serialize_leaf_unsign {c : Caster} {v w : Value}
    (hc : c.showsZeros = false ∨ ∃ element delimiter, c = .array element delimiter)
    (hv : ∀ items, v ≠ .array items) (h : c.serialize v = .ok w) :
    c.serialize v.unsign = .ok w := by
  cases v with
  | array items => exact absurd rfl (hv items)
  | float d =>
    cases c with
    | integer width => exact (serialize_integer_unsign width d).trans h
    | float | text | json | jsonb => simp [showsZeros] at hc
    | boolean | date | timestamp | bytea | array => cases h
  | json j =>
    cases c with
    | text | json | jsonb => simp [showsZeros] at hc
    | _ => cases h
  | _ => exact h

section

variable {cast : Value → Except CastError Value}

theorem castItems_unsign {vs ws : List Value}
    (h : ∀ v ∈ vs, ∀ w, castLeaves cast v = .ok w → castLeaves cast v.unsign = .ok w)
    (hvs : castItems cast vs = .ok ws) : castItems cast (Value.unsignItems vs) = .ok ws := by
  induction vs generalizing ws with
  | nil => exact hvs
  | cons v vs ih =>
    obtain ⟨hv, hrest⟩ := List.forall_mem_cons.mp h
    obtain ⟨w, rest, hw, hws, rfl⟩ := castItems_cons_eq_ok.mp hvs
    exact castItems_cons_eq_ok.mpr ⟨w, rest, hv w hw, ih hrest hws, rfl⟩

theorem castLeaves_unsign
    (h : ∀ v w, (∀ items, v ≠ .array items) → cast v = .ok w → cast v.unsign = .ok w)
    (v w : Value) (hv : castLeaves cast v = .ok w) : castLeaves cast v.unsign = .ok w := by
  induction v using Value.array_induction generalizing w with
  | leaf v hleaf =>
    have hunsigned : ∀ items, v.unsign ≠ .array items := by
      cases v with
      | array items => exact absurd rfl (hleaf items)
      | _ => simp [Value.unsign]
    rw [castLeaves_of_ne_array hleaf] at hv
    rw [castLeaves_of_ne_array hunsigned]
    exact h v w hleaf hv
  | array items ih =>
    rw [castLeaves] at hv
    rw [Value.unsign, castLeaves]
    cases hitems : castItems cast items with
    | error e =>
      rw [hitems] at hv
      cases hv
    | ok ws =>
      rw [hitems] at hv
      rw [castItems_unsign ih hitems]
      exact hv

end

/-- A column that does not show the signs of zeros receives the same whatever they are. -/
theorem serialize_unsign_of_unseen {c : Caster} {v w : Value} (hc : c.showsZeros = false)
    (h : c.serialize v = .ok w) : c.serialize v.unsign = .ok w := by
  cases v with
  | array items =>
    cases c with
    | array element delimiter =>
      have helement : element.showsZeros = false ∨ ∃ inner mark, element = .array inner mark := by
        cases element with
        | array inner mark => exact .inr ⟨inner, mark, rfl⟩
        | _ => exact .inl hc
      have hleaf (v w : Value) := @serialize_leaf_unsign element v w helement
      cases hitems : castItems element.serialize items with
      | error e =>
        simp [serialize, serializeArray, hitems, bind, Except.bind] at h
      | ok ws =>
        have hunsigned := castItems_unsign (fun v _ => castLeaves_unsign hleaf v) hitems
        simp only [serialize, serializeArray, hitems] at h
        simp only [Value.unsign, serialize, serializeArray, hunsigned]
        exact h
    | text | json | jsonb => cases hc
    | _ => cases h
  | _ => exact serialize_leaf_unsign (.inl hc) (by simp) h

/-- If no sign of a zero shows in a text that a column receives, it shows at most in the sign of a
zero that the column receives. -/
theorem serialize_unsign {c : Caster} {v w : Value} (hc : c.writesZeros = false)
    (h : c.serialize v = .ok w) : ∃ u, c.serialize v.unsign = .ok u ∧ u.unsign = w.unsign := by
  cases hshows : c.showsZeros with
  | false => exact ⟨w, serialize_unsign_of_unseen hshows h, rfl⟩
  | true =>
    obtain rfl : c = .float := by simpa [writesZeros, hshows] using hc
    cases v with
    | float d =>
      cases h
      exact ⟨.float d.unsign, rfl, congrArg Value.float d.unsign_unsign⟩
    | json | array => cases h
    | _ => exact ⟨w, h, rfl⟩

end Caster

/-! ## Candidates -/

theorem Caster.exists_refuses_iff {c : Caster} {v : Value} :
    (∃ e, c.Refuses v e) ↔ v.isNull = false ∧ Outcome.of (c.serialize v) = .refused := by
  simp only [Refuses, ← Value.isNull_eq_false, exists_and_left]
  refine and_congr_right fun _ => ?_
  cases c.serialize v with
  | ok w => simp [Outcome.of]
  | error e => cases h : e.isOutOfRange <;> simp [Outcome.of, h]

theorem Caster.isLeft_eq (c : Caster) (v : Value) :
    c.isLeft v = (!v.isNull && decide (Outcome.of (c.serialize v) ≠ .outOfRange)) := by
  unfold isLeft
  congr 1
  cases c.serialize v with
  | ok w => rfl
  | error e => cases e <;> rfl

/-- A list of values keeps its candidates whatever the signs of its zeros, or fails whatever they
are. -/
theorem InList.filterCandidates_unsign (c : Caster) (vs : List Value) :
    (∃ e e', filterCandidates c vs = .error e ∧
        filterCandidates c (vs.map Value.unsign) = .error e') ∨
      ∃ ws, filterCandidates c vs = .ok ws ∧
        filterCandidates c (vs.map Value.unsign) = .ok (ws.map Value.unsign) := by
  have hrefuses (v : Value) : (∃ e, c.Refuses v.unsign e) ↔ ∃ e, c.Refuses v e := by
    rw [Caster.exists_refuses_iff, Caster.exists_refuses_iff, v.isNull_unsign,
      c.outcome_serialize_unsign]
  have hleft (v : Value) : c.isLeft v.unsign = c.isLeft v := by
    rw [Caster.isLeft_eq, Caster.isLeft_eq, v.isNull_unsign, c.outcome_serialize_unsign]
  have herror {us : List Value} (h : ∃ v ∈ us, ∃ e, c.Refuses v e) :
      ∃ e, filterCandidates c us = .error e := by
    obtain ⟨before, v, after, e, rfl, hbefore, hv⟩ := exists_first_refused h
    exact ⟨e, filterCandidates_of_refuses hbefore hv⟩
  by_cases h : ∃ v ∈ vs, ∃ e, c.Refuses v e
  · left
    obtain ⟨v, hv, hrefused⟩ := h
    obtain ⟨e, he⟩ := herror ⟨v, hv, hrefused⟩
    obtain ⟨e', he'⟩ := herror ⟨v.unsign, List.mem_map_of_mem hv, (hrefuses v).mpr hrefused⟩
    exact ⟨e, e', he, he'⟩
  · right
    have hnone : ∀ v ∈ vs, ¬ ∃ e, c.Refuses v e := fun v hv hrefused => h ⟨v, hv, hrefused⟩
    refine ⟨vs.filter c.isLeft, ?_, ?_⟩
    · exact filterCandidates_of_not_refuses fun v hv e he => hnone v hv ⟨e, he⟩
    · rw [filterCandidates_of_not_refuses, List.filter_map]
      · simp only [Function.comp_def, hleft]
      · intro v hv e he
        obtain ⟨u, hu, rfl⟩ := List.mem_map.mp hv
        exact hnone u hu ((hrefuses u).mp ⟨e, he⟩)

end SqlTree
