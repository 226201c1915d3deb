-- The candidates of a test are a plain filter of its values. A list fails for the first value that
-- the column refuses, and otherwise loses exactly its nulls and the numbers out of range.
import Mathlib.Data.List.Forall2
import SqlTree.Proofs.Received

namespace SqlTree

theorem Value.isNull_eq_false {v : Value} : v.isNull = false ↔ v ≠ .null := by
  cases v <;> simp [Value.isNull]

/-! ## What a column makes of one value -/

namespace Caster

variable {c : Caster} {v w : Value} {e : CastError}

/-- The column refuses a value, and not for its size. -/
def Refuses (c : Caster) (v : Value) (e : CastError) : Prop :=
  v ≠ .null ∧ c.serialize v = .error e ∧ e.isOutOfRange = false

/-- Whether a value is left in a list: it is not null, and not out of range. -/
def isLeft (c : Caster) (v : Value) : Bool :=
  !v.isNull && !(c.serialize v matches .error (.outOfRange _ _))

/-- A value is null, taken, out of range or refused. -/
theorem value_cases (c : Caster) (v : Value) :
    v = .null ∨ (v ≠ .null ∧ ∃ w, c.serialize v = .ok w) ∨
      (v ≠ .null ∧ ∃ number sqlType, c.serialize v = .error (.outOfRange number sqlType)) ∨
      ∃ e, c.Refuses v e := by
  by_cases hv : v = .null
  · exact .inl hv
  · cases hs : c.serialize v with
    | ok w => exact .inr (.inl ⟨hv, w, rfl⟩)
    | error e =>
      cases e with
      | outOfRange number sqlType => exact .inr (.inr (.inl ⟨hv, number, sqlType, rfl⟩))
      | invalid _ _ | unknownType _ => exact .inr (.inr (.inr ⟨_, hv, hs, rfl⟩))

theorem isSerializable_of_outOfRange {number sqlType : String}
    (h : c.serialize v = .error (.outOfRange number sqlType)) : c.isSerializable v = false := by
  simp [isSerializable, h, CastError.isOutOfRange]

theorem isSerializable_of_refuses (h : c.Refuses v e) : c.isSerializable v = true := by
  simp [isSerializable, h.2.1, h.2.2]

end Caster

namespace InList

variable {c : Caster} {v w : Value} {e : CastError}

theorem isCandidate_of_serialize (hv : v ≠ .null) (h : c.serialize v = .ok w) :
    isCandidate c v = .ok true := by
  have hw : w.isNull = false := Value.isNull_eq_false.mpr (Caster.ne_null_of_serialize hv h)
  simp [isCandidate, Caster.isSerializable, h, Value.isNull_eq_false.mpr hv, Except.map, hw]

theorem isCandidate_of_outOfRange {number sqlType : String}
    (h : c.serialize v = .error (.outOfRange number sqlType)) : isCandidate c v = .ok false := by
  simp [isCandidate, Caster.isSerializable_of_outOfRange h]

theorem isCandidate_of_refuses (h : c.Refuses v e) : isCandidate c v = .error e := by
  have hv := Value.isNull_eq_false.mpr h.1
  simp [isCandidate, Caster.isSerializable_of_refuses h, hv, h.2.1, Except.map]

/-- Whatever is not refused is kept as far as it is left. -/
theorem isCandidate_of_not_refuses (h : ∀ e, ¬ c.Refuses v e) :
    isCandidate c v = .ok (c.isLeft v) := by
  rcases c.value_cases v with rfl | ⟨hv, w, hw⟩ | ⟨hv, number, sqlType, hout⟩ | ⟨e, he⟩
  · rfl
  · rw [isCandidate_of_serialize hv hw, Caster.isLeft, Value.isNull_eq_false.mpr hv, hw]
    rfl
  · rw [isCandidate_of_outOfRange hout, Caster.isLeft, Value.isNull_eq_false.mpr hv, hout]
    rfl
  · exact absurd he (h e)

/-! ## What is left of a list -/

variable {vs : List Value}

/-- A list in two parts fails for the first part if that fails, and keeps what each part keeps. -/
theorem filterCandidates_append (c : Caster) (vs ws : List Value) :
    filterCandidates c (vs ++ ws) = do
      let kept ← filterCandidates c vs
      let rest ← filterCandidates c ws
      return kept ++ rest := by
  induction vs with
  | nil =>
    cases hws : filterCandidates c ws <;>
      simp [filterCandidates, hws, bind, Except.bind, pure, Except.pure]
  | cons v vs ih =>
    simp only [List.cons_append, filterCandidates, ih]
    cases isCandidate c v with
    | error e => rfl
    | ok keep =>
      cases filterCandidates c vs with
      | error e => rfl
      | ok kept =>
        cases filterCandidates c ws with
        | error e => rfl
        | ok rest => cases keep <;> rfl

theorem filterCandidates_of_not_refuses (h : ∀ v ∈ vs, ∀ e, ¬ c.Refuses v e) :
    filterCandidates c vs = .ok (vs.filter c.isLeft) := by
  induction vs with
  | nil => rfl
  | cons v vs ih =>
    have hv := isCandidate_of_not_refuses (h v List.mem_cons_self)
    have hvs := ih fun x hx => h x (List.mem_cons_of_mem v hx)
    rw [filterCandidates, hv, hvs]
    cases hleft : c.isLeft v <;> simp [bind, Except.bind, pure, Except.pure, hleft]

theorem filterCandidates_of_refuses {before after : List Value}
    (hbefore : ∀ u ∈ before, ∀ e', ¬ c.Refuses u e') (hv : c.Refuses v e) :
    filterCandidates c (before ++ v :: after) = .error e := by
  rw [filterCandidates_append, filterCandidates_of_not_refuses hbefore, filterCandidates,
    isCandidate_of_refuses hv]
  rfl

/-- If any value is refused, there is a first one. -/
theorem exists_first_refused (h : ∃ v ∈ vs, ∃ e, c.Refuses v e) :
    ∃ before v after e, vs = before ++ v :: after ∧
      (∀ u ∈ before, ∀ e', ¬ c.Refuses u e') ∧ c.Refuses v e := by
  induction vs with
  | nil => simp at h
  | cons v vs ih =>
    by_cases hv : ∃ e, c.Refuses v e
    · obtain ⟨e, he⟩ := hv
      exact ⟨[], v, vs, e, rfl, by simp, he⟩
    · obtain ⟨x, hx, hrefused⟩ := h
      rcases List.mem_cons.mp hx with rfl | hx
      · exact absurd hrefused hv
      · obtain ⟨before, y, after, e, rfl, hbefore, hy⟩ := ih ⟨x, hx, hrefused⟩
        refine ⟨v :: before, y, after, e, rfl, ?_, hy⟩
        rw [List.forall_mem_cons]
        exact ⟨fun e' he' => hv ⟨e', he'⟩, hbefore⟩

theorem forall₂_of_mapM {α β ε : Type} {f : α → Except ε β} {xs : List α} {ys : List β}
    (h : xs.mapM f = .ok ys) : List.Forall₂ (fun x y => f x = .ok y) xs ys := by
  induction xs generalizing ys with
  | nil =>
    cases h
    exact .nil
  | cons x xs ih =>
    obtain ⟨y, rest, hy, hrest, rfl⟩ := mapM_cons_eq_ok.mp h
    exact .cons hy (ih hrest)

/-! ## The law -/

/-- A test has no candidates exactly if the column refuses one of its values, and then for the
first of them. Otherwise its candidates are, in order and as they were given, the values that are
not null and not out of range. All of these can be cast, one by one, and none to null. -/
theorem candidates_are_what_is_left (m : InList Caster Value) :
    ((∃ e, m.candidates = .error e) ↔ ∃ v ∈ m.values, ∃ e, m.column.type.Refuses v e) ∧
    (∀ before v after e, m.values = before ++ v :: after →
      (∀ u ∈ before, ∀ e', ¬ m.column.type.Refuses u e') → m.column.type.Refuses v e →
      m.candidates = .error e) ∧
    ((∀ v ∈ m.values, ∀ e, ¬ m.column.type.Refuses v e) →
      m.candidates = .ok (m.values.filter m.column.type.isLeft) ∧
      ∃ ws, m.castedValues = .ok ws ∧ (∀ w ∈ ws, w ≠ .null) ∧
        List.Forall₂ (fun v w => m.column.type.serialize v = .ok w)
          (m.values.filter m.column.type.isLeft) ws) := by
  refine ⟨⟨?_, ?_⟩, ?_, ?_⟩
  · rintro ⟨e, he⟩
    by_contra hnone
    have hok : m.candidates = .ok (m.values.filter m.column.type.isLeft) :=
      filterCandidates_of_not_refuses fun v hv e' he' => hnone ⟨v, hv, e', he'⟩
    rw [hok] at he
    cases he
  · intro hrefused
    obtain ⟨before, v, after, e, hvalues, hbefore, hv⟩ := exists_first_refused hrefused
    refine ⟨e, ?_⟩
    rw [candidates, hvalues]
    exact filterCandidates_of_refuses hbefore hv
  · intro before v after e hvalues hbefore hv
    rw [candidates, hvalues]
    exact filterCandidates_of_refuses hbefore hv
  · intro hnone
    have hok : m.candidates = .ok (m.values.filter m.column.type.isLeft) :=
      filterCandidates_of_not_refuses hnone
    obtain ⟨ws, hws, hcasted⟩ := castedValues_of_candidates hok
    refine ⟨hok, ws, hcasted, ?_, forall₂_of_mapM hws⟩
    intro w hw
    exact Value.isNull_eq_false.mp (casted_of_candidates hok hws w hw).1

/-- Of two arrays with a number out of range and a word that is no number, the one that has the
number first is dropped, and the one that has the word first is refused. -/
theorem candidates_are_what_is_left_of_two :
    let scores : Column Caster := ⟨none, "scores", .array (.ofBytes 2) ','⟩
    let one : Value := .array [.integer 1]
    let large : Value := .array [.integer 40000, .text "x"]
    let bad : Value := .array [.text "x", .integer 40000]
    (∀ v ∈ [.null, one, large], ∀ e, ¬ scores.type.Refuses v e) ∧
    scores.type.Refuses bad (.invalid (.text "x") "smallint") ∧
    (⟨scores, [.null, one, large], .isIn⟩ : InList Caster Value).candidates = .ok [one] ∧
    (⟨scores, [.null, one, large, bad, .bool true], .isIn⟩ : InList Caster Value).candidates =
      .error (.invalid (.text "x") "smallint") := by
  intro scores one large bad
  have hnone : ∀ v ∈ [.null, one, large], ∀ e, ¬ scores.type.Refuses v e := by
    intro v hv e he
    have hout : ∀ w, scores.type.serialize v = .ok w → False := by
      intro w hw
      rw [he.2.1] at hw
      cases hw
    simp only [List.mem_cons, List.not_mem_nil, or_false] at hv
    rcases hv with rfl | rfl | rfl
    · exact he.1 rfl
    · exact hout _ rfl
    · have herror : scores.type.serialize large = .error (.outOfRange "40000" "smallint") := rfl
      obtain ⟨-, hserialize, hrange⟩ := he
      rw [herror] at hserialize
      cases hserialize
      cases hrange
  have hbad : scores.type.Refuses bad (.invalid (.text "x") "smallint") := ⟨nofun, rfl, rfl⟩
  obtain ⟨-, -, hleft⟩ := candidates_are_what_is_left ⟨scores, [.null, one, large], .isIn⟩
  obtain ⟨-, hfirst, -⟩ :=
    candidates_are_what_is_left ⟨scores, [.null, one, large, bad, .bool true], .isIn⟩
  exact ⟨hnone, hbad, (hleft hnone).1, hfirst [.null, one, large] bad [.bool true] _ rfl hnone hbad⟩

end InList

end SqlTree
