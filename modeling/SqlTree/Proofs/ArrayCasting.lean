-- Casting an array. The leaves are cast from left to right, however deep they lie, and the first
-- leaf that cannot be cast is what an array fails for.
import SqlTree.Cast.Serialize
import SqlTree.Proofs.Substitution

namespace SqlTree

/-! ## Leaves -/

namespace Value

mutual
/-- The values inside of a value that are not arrays. -/
def leaves : Value → List Value
  | .array items => leavesOf items
  | v => [v]

def leavesOf : List Value → List Value
  | [] => []
  | v :: vs => v.leaves ++ leavesOf vs
end

/-- What holds of all that is not an array, and of an array whenever it holds of its items, holds
of every value. -/
@[elab_as_elim]
theorem array_induction {P : Value → Prop} (leaf : ∀ v, (∀ items, v ≠ .array items) → P v)
    (array : ∀ items, (∀ v ∈ items, P v) → P (.array items)) (v : Value) : P v := by
  cases v with
  | array items => exact array items fun w _ => array_induction leaf array w
  | _ => exact leaf _ (by simp)
termination_by sizeOf v
decreasing_by
  have := List.sizeOf_lt_of_mem ‹_›
  rw [Value.array.sizeOf_spec]
  omega

theorem leaves_of_ne_array {v : Value} (h : ∀ items, v ≠ .array items) : v.leaves = [v] := by
  cases v with
  | array items => exact absurd rfl (h items)
  | _ => rfl

theorem mem_leavesOf {leaf : Value} {vs : List Value} :
    leaf ∈ leavesOf vs ↔ ∃ v ∈ vs, leaf ∈ v.leaves := by
  induction vs with
  | nil => simp [leavesOf]
  | cons v vs ih => simp [leavesOf, ih]

/-- A leaf is not an array. -/
theorem ne_array_of_mem_leaves {leaf v : Value} (h : leaf ∈ v.leaves) (items : List Value) :
    leaf ≠ .array items := by
  induction v using array_induction with
  | leaf v hv =>
    rw [leaves_of_ne_array hv, List.mem_singleton] at h
    rw [h]
    exact hv items
  | array inner ih =>
    obtain ⟨v, hv, hleaf⟩ := mem_leavesOf.mp h
    exact ih v hv hleaf

end Value

/-! ## Casting leaf by leaf -/

section

variable {α β ε : Type}

theorem mapM_append_eq_error {f : α → Except ε β} {xs ys : List α} {e : ε} :
    (xs ++ ys).mapM f = .error e ↔
      xs.mapM f = .error e ∨ ∃ zs, xs.mapM f = .ok zs ∧ ys.mapM f = .error e := by
  rw [List.mapM_append]
  cases hx : xs.mapM f with
  | error e' => simp [bind, Except.bind]
  | ok zs =>
    cases hy : ys.mapM f with
    | error e' => simp [bind, Except.bind]
    | ok ws => simp [bind, Except.bind, pure, Except.pure]

/-- Two computations that fail alike also succeed alike. -/
theorem exists_ok_iff_of_error_iff {a : Except ε α} {b : Except ε β}
    (h : ∀ e, a = .error e ↔ b = .error e) : (∃ x, a = .ok x) ↔ ∃ y, b = .ok y := by
  cases a with
  | error e => simp [(h e).mp rfl]
  | ok x =>
    cases b with
    | error e => exact absurd ((h e).mpr rfl) (by simp)
    | ok y => simp

end

namespace Caster

variable {cast : Value → Except CastError Value}

theorem castLeaves_of_ne_array {v : Value} (h : ∀ items, v ≠ .array items) :
    castLeaves cast v = cast v := by
  cases v with
  | array items => exact absurd rfl (h items)
  | _ => rfl

theorem castLeaves_array_eq_error {items : List Value} {e : CastError} :
    castLeaves cast (.array items) = .error e ↔ castItems cast items = .error e := by
  rw [castLeaves]
  cases castItems cast items <;> simp [bind, Except.bind, pure, Except.pure]

theorem castItems_cons_eq_error {v : Value} {vs : List Value} {e : CastError} :
    castItems cast (v :: vs) = .error e ↔ castLeaves cast v = .error e ∨
      (∃ w, castLeaves cast v = .ok w) ∧ castItems cast vs = .error e := by
  rw [castItems]
  cases hv : castLeaves cast v with
  | error e => simp [bind, Except.bind]
  | ok w =>
    cases hvs : castItems cast vs with
    | error e => simp [bind, Except.bind]
    | ok rest => simp [bind, Except.bind, pure, Except.pure]

theorem castItems_cons_eq_ok {v : Value} {vs ws : List Value} :
    castItems cast (v :: vs) = .ok ws ↔
      ∃ w rest, castLeaves cast v = .ok w ∧ castItems cast vs = .ok rest ∧ ws = w :: rest := by
  rw [castItems]
  cases castLeaves cast v with
  | error e => simp [bind, Except.bind]
  | ok w =>
    cases castItems cast vs with
    | error e => simp [bind, Except.bind]
    | ok rest => simp [bind, Except.bind, pure, Except.pure, eq_comm]

/-- Items fail as their leaves do if each item does. -/
theorem castItems_eq_error_of_items {vs : List Value}
    (h : ∀ v ∈ vs, ∀ e, castLeaves cast v = .error e ↔ v.leaves.mapM cast = .error e)
    (e : CastError) :
    castItems cast vs = .error e ↔ (Value.leavesOf vs).mapM cast = .error e := by
  induction vs with
  | nil => simp [castItems, Value.leavesOf, pure, Except.pure]
  | cons v vs ih =>
    have hv := h v List.mem_cons_self
    have hvs := ih fun x hx => h x (List.mem_cons_of_mem v hx)
    rw [Value.leavesOf, castItems_cons_eq_error, mapM_append_eq_error, hv, hvs,
      exists_ok_iff_of_error_iff hv, exists_and_right]

/-- A value fails with the error of its first leaf that cannot be cast. -/
theorem castLeaves_eq_error {v : Value} {e : CastError} :
    castLeaves cast v = .error e ↔ v.leaves.mapM cast = .error e := by
  induction v using Value.array_induction generalizing e with
  | leaf v hv =>
    rw [castLeaves_of_ne_array hv, Value.leaves_of_ne_array hv, mapM_cons_eq_error]
    simp [pure, Except.pure]
  | array items ih =>
    rw [castLeaves_array_eq_error]
    exact castItems_eq_error_of_items (fun v hv e => ih v hv) e

/-- Items fail with the error of the first leaf in them that cannot be cast. -/
theorem castItems_eq_error {vs : List Value} {e : CastError} :
    castItems cast vs = .error e ↔ (Value.leavesOf vs).mapM cast = .error e :=
  castItems_eq_error_of_items (fun _ _ _ => castLeaves_eq_error) e

/-- Items that are not arrays are cast one by one. -/
theorem castItems_eq_mapM {vs : List Value} (h : ∀ v ∈ vs, ∀ items, v ≠ .array items) :
    castItems cast vs = vs.mapM cast := by
  induction vs with
  | nil => rfl
  | cons v vs ih =>
    have hv : castLeaves cast v = cast v := castLeaves_of_ne_array (h v List.mem_cons_self)
    have hvs := ih fun x hx => h x (List.mem_cons_of_mem v hx)
    rw [castItems, List.mapM_cons, hv, hvs]

theorem castItems_eq_self_of_items {vs : List Value} (h : ∀ v ∈ vs, castLeaves cast v = .ok v) :
    castItems cast vs = .ok vs := by
  induction vs with
  | nil => rfl
  | cons v vs ih =>
    have hv := h v List.mem_cons_self
    have hvs := ih fun x hx => h x (List.mem_cons_of_mem v hx)
    rw [castItems, hv, hvs]
    rfl

theorem castLeaves_eq_self {v : Value} (h : ∀ leaf ∈ v.leaves, cast leaf = .ok leaf) :
    castLeaves cast v = .ok v := by
  induction v using Value.array_induction with
  | leaf v hv =>
    rw [castLeaves_of_ne_array hv]
    exact h v (by rw [Value.leaves_of_ne_array hv]; exact List.mem_singleton_self v)
  | array items ih =>
    have hitems : ∀ v ∈ items, castLeaves cast v = .ok v := by
      intro v hv
      exact ih v hv fun leaf hleaf => h leaf (Value.mem_leavesOf.mpr ⟨v, hv, hleaf⟩)
    rw [castLeaves, castItems_eq_self_of_items hitems]
    rfl

/-- Items whose leaves a cast leaves alone stay as they are. -/
theorem castItems_eq_self {vs : List Value}
    (h : ∀ leaf ∈ Value.leavesOf vs, cast leaf = .ok leaf) : castItems cast vs = .ok vs := by
  apply castItems_eq_self_of_items
  intro v hv
  exact castLeaves_eq_self fun leaf hleaf => h leaf (Value.mem_leavesOf.mpr ⟨v, hv, hleaf⟩)

/-- A column of arrays receives a literal of the items that are cast leaf by leaf. -/
theorem serialize_array (element : Caster) (delimiter : Char) (items : List Value) :
    (array element delimiter).serialize (.array items) =
      (castItems element.serialize items).map fun ws =>
        .text (ArrayLiteral.encode delimiter ws) := by
  rw [serialize, serializeArray]
  cases castItems element.serialize items with
  | error e => rfl
  | ok ws => rfl

end Caster

end SqlTree
