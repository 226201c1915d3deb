-- The candidates of a test against a list of values. Every candidate can be cast, and no candidate
-- is cast to null or to an array.
import SqlTree.Proofs.Substitution
import SqlTree.Query.InList

namespace SqlTree

/-! ## What casting yields -/

namespace Caster

theorem orInvalid_eq_ok {sqlType : String} {v w : Value} {o : Option Value} :
    orInvalid sqlType v o = .ok w ↔ o = some w := by
  cases o <;> simp [orInvalid]

theorem integer_of_check {width : Width} {n : Int} {w : Value} (h : width.check n = .ok w) :
    w = .integer (Int64.ofInt n) := by
  unfold Width.check at h
  split at h
  · cases h
    rfl
  · cases h

/-- Integer columns receive nulls and integers. -/
theorem integer_of_serialize {width : Width} {v w : Value} (h : width.serialize v = .ok w) :
    w = .null ∨ ∃ n, w = .integer n := by
  unfold Width.serialize at h
  split at h
  · cases h
    exact .inl rfl
  · exact .inr ⟨_, integer_of_check h⟩
  · cases h
    exact .inr ⟨_, rfl⟩
  · split at h
    · split at h
      · exact .inr ⟨_, integer_of_check h⟩
      · cases h
    · cases h
  · split at h
    · split at h
      · exact .inr ⟨_, integer_of_check h⟩
      · cases h
    · cases h
  · cases h

/-- No column receives an array as such. -/
theorem ne_array_of_serialize {c : Caster} {v w : Value} (h : c.serialize v = .ok w)
    (items : List Value) : w ≠ .array items := by
  rintro rfl
  cases c with
  | integer width =>
    rcases integer_of_serialize h with h | ⟨n, h⟩
    · cases h
    · cases h
  | float => cases v <;> simp [serialize, serializeFloat, orInvalid_eq_ok] at h
  | boolean =>
    cases v with
    | integer n =>
      simp only [serialize, serializeBoolean] at h
      split at h
      · cases h
      · split at h <;> cases h
    | _ => simp [serialize, serializeBoolean, orInvalid_eq_ok] at h
  | text => cases v <;> simp [serialize, serializeText] at h
  | date => cases v <;> simp [serialize, serializeDate, orInvalid_eq_ok] at h
  | timestamp => cases v <;> simp [serialize, serializeTimestamp, orInvalid_eq_ok] at h
  | bytea => cases v <;> simp [serialize, serializeBytea] at h
  | json => cases v <;> simp [serialize, serializeJson] at h
  | jsonb => cases v <;> simp [serialize, serializeJson] at h
  | array element delimiter =>
    cases v with
    | array inner =>
      simp only [serialize, serializeArray] at h
      cases hcast : castItems element.serialize inner <;>
        simp [hcast, bind, Except.bind, pure, Except.pure] at h
    | _ => simp [serialize, serializeArray] at h

/-- Scalar columns take no arrays. -/
theorem serialize_array_of_scalar {c : Caster} (h : c.kind = .scalar) (items : List Value) :
    c.serialize (.array items) = .error (.invalid (.array items) c.sqlType) := by
  cases c with
  | integer width => rfl
  | float | boolean | text | date | timestamp => rfl
  | bytea | json | jsonb | array element delimiter => cases h

end Caster

/-! ## What is kept -/

section

variable {α β ε : Type} {f : α → Except ε β}

theorem exists_mapM_eq_ok {xs : List α} (h : ∀ x ∈ xs, ∃ y, f x = .ok y) :
    ∃ ys, xs.mapM f = .ok ys := by
  induction xs with
  | nil => exact ⟨[], rfl⟩
  | cons x xs ih =>
    obtain ⟨y, hy⟩ := h x List.mem_cons_self
    obtain ⟨ys, hys⟩ := ih fun z hz => h z (List.mem_cons_of_mem x hz)
    exact ⟨y :: ys, mapM_cons_eq_ok.mpr ⟨y, ys, hy, hys, rfl⟩⟩

theorem exists_of_mem_mapM {xs : List α} {ys : List β} {y : β} (h : xs.mapM f = .ok ys)
    (hy : y ∈ ys) : ∃ x ∈ xs, f x = .ok y := by
  induction xs generalizing ys with
  | nil =>
    cases h
    cases hy
  | cons x xs ih =>
    obtain ⟨z, zs, hz, hzs, rfl⟩ := mapM_cons_eq_ok.mp h
    rcases List.mem_cons.mp hy with rfl | hy
    · exact ⟨x, List.mem_cons_self, hz⟩
    · obtain ⟨x', hx', hfx⟩ := ih hzs hy
      exact ⟨x', List.mem_cons_of_mem x hx', hfx⟩

end

namespace InList

theorem isCandidate_eq_true {c : Caster} {v : Value} (h : isCandidate c v = .ok true) :
    ∃ w, c.serialize v = .ok w ∧ w.isNull = false := by
  unfold isCandidate at h
  split at h
  · cases h
  · cases hs : c.serialize v with
    | error e => simp [hs, Except.map] at h
    | ok w =>
      refine ⟨w, rfl, ?_⟩
      simpa [hs, Except.map] using h

theorem filterCandidates_cons_eq_ok {c : Caster} {v : Value} {vs ws : List Value} :
    filterCandidates c (v :: vs) = .ok ws ↔
      ∃ keep rest, isCandidate c v = .ok keep ∧ filterCandidates c vs = .ok rest ∧
        ws = if keep then v :: rest else rest := by
  rw [filterCandidates]
  cases hv : isCandidate c v with
  | error e => simp [bind, Except.bind]
  | ok keep =>
    cases hvs : filterCandidates c vs with
    | error e => simp [bind, Except.bind]
    | ok rest => simp [bind, Except.bind, pure, Except.pure, eq_comm]

theorem serialize_of_mem_filterCandidates {c : Caster} {vs ws : List Value}
    (h : filterCandidates c vs = .ok ws) :
    ∀ v ∈ ws, ∃ w, c.serialize v = .ok w ∧ w.isNull = false := by
  induction vs generalizing ws with
  | nil =>
    cases h
    simp
  | cons v vs ih =>
    obtain ⟨keep, rest, hkeep, hrest, rfl⟩ := filterCandidates_cons_eq_ok.mp h
    intro x hx
    cases keep with
    | false => exact ih hrest x hx
    | true =>
      rcases List.mem_cons.mp hx with rfl | hx
      · exact isCandidate_eq_true hkeep
      · exact ih hrest x hx

variable {m : InList Caster Value} {vs : List Value}

/-- A candidate of a scalar column is not an array. -/
theorem candidate_ne_array (hscalar : m.column.type.kind = .scalar) (h : m.candidates = .ok vs)
    {v : Value} (hv : v ∈ vs) (items : List Value) : v ≠ .array items := by
  rintro rfl
  obtain ⟨w, hw, -⟩ := serialize_of_mem_filterCandidates h _ hv
  rw [Caster.serialize_array_of_scalar hscalar items] at hw
  cases hw

/-- What the candidates are cast to is not null. -/
theorem casted_of_candidates {ws : List Value} (h : m.candidates = .ok vs)
    (hws : vs.mapM m.column.type.serialize = .ok ws) :
    ∀ w ∈ ws, w.isNull = false ∧ ∃ v, m.column.type.serialize v = .ok w := by
  intro w hw
  obtain ⟨v, hv, hvw⟩ := exists_of_mem_mapM hws hw
  obtain ⟨w', hw', hnull⟩ := serialize_of_mem_filterCandidates h v hv
  rw [hvw] at hw'
  cases hw'
  exact ⟨hnull, v, hvw⟩

/-- All candidates can be cast. -/
theorem castedValues_of_candidates (h : m.candidates = .ok vs) :
    ∃ ws, vs.mapM m.column.type.serialize = .ok ws ∧ m.castedValues = .ok ws := by
  have hcast : ∀ v ∈ vs, ∃ w, m.column.type.serialize v = .ok w := by
    intro v hv
    obtain ⟨w, hw, -⟩ := serialize_of_mem_filterCandidates h v hv
    exact ⟨w, hw⟩
  obtain ⟨ws, hws⟩ := exists_mapM_eq_ok hcast
  refine ⟨ws, hws, ?_⟩
  rw [castedValues, h]
  exact hws

end InList

end SqlTree
