-- Arrays keep their shape when they are cast. The literal of an array has an array wherever the
-- array has one, and for each leaf what the element type receives for it.
import SqlTree.Proofs.ArrayCasting
import SqlTree.Proofs.ArrayReader
import SqlTree.Proofs.Candidates

namespace SqlTree

/-! ## Shapes -/

/-- What a literal shows of a leaf that can be cast: NULL if the column receives null for it, and
otherwise the text of what the column receives. -/
def Caster.shown? (c : Caster) (leaf : Value) : Option Element :=
  match c.serialize leaf with
  | .ok .null => some .null
  | .ok w => w.toText?.map .text
  | .error _ => none

namespace Value

mutual
/-- A value with arrays left in place and every leaf replaced by what is shown of it, unless there
is a leaf of which nothing is. -/
def shape? (shown? : Value → Option Element) : Value → Option Element
  | .array items => (shapes? shown? items).map .array
  | leaf => shown? leaf

def shapes? (shown? : Value → Option Element) : List Value → Option (List Element)
  | [] => some []
  | v :: vs => do return (← v.shape? shown?) :: (← shapes? shown? vs)
end

theorem shape?_of_ne_array {shown? : Value → Option Element} {v : Value}
    (h : ∀ items, v ≠ .array items) : v.shape? shown? = shown? v := by
  rw [shape?]
  exact h

end Value

/-! ## Casting keeps the shape -/

namespace Caster

variable {cast : Value → Except CastError Value} {shown? : Value → Option Element}

/-- No column receives an array as such, so a leaf stays a leaf. -/
theorem shown?_of_serialize {c : Caster} {leaf w : Value} (h : c.serialize leaf = .ok w) :
    c.shown? leaf = some w.element := by
  unfold shown?
  rw [h]
  cases w with
  | array items => exact absurd rfl (ne_array_of_serialize h items)
  | null => rfl
  | _ => simp [Value.toText?, Value.element]

/-- Items keep their shapes if each of them does. -/
theorem shapes?_of_castItems_of_items {vs ws : List Value}
    (hitems : ∀ v ∈ vs, ∀ w, castLeaves cast v = .ok w → v.shape? shown? = some w.element)
    (h : castItems cast vs = .ok ws) : Value.shapes? shown? vs = some (Value.elements ws) := by
  induction vs generalizing ws with
  | nil =>
    cases h
    rfl
  | cons v vs ih =>
    obtain ⟨w, rest, hv, hvs, rfl⟩ := castItems_cons_eq_ok.mp h
    have hshape := hitems v List.mem_cons_self w hv
    have hshapes := ih (fun x hx => hitems x (List.mem_cons_of_mem v hx)) hvs
    simp [Value.shapes?, Value.elements, hshape, hshapes]

theorem shape?_of_castLeaves (hleaf : ∀ v w, cast v = .ok w → shown? v = some w.element)
    {v w : Value} (h : castLeaves cast v = .ok w) : v.shape? shown? = some w.element := by
  induction v using Value.array_induction generalizing w with
  | leaf v hv =>
    rw [castLeaves_of_ne_array hv] at h
    rw [Value.shape?_of_ne_array hv]
    exact hleaf v w h
  | array items ih =>
    rw [castLeaves] at h
    cases hcast : castItems cast items with
    | error e => simp [hcast, bind, Except.bind] at h
    | ok ws =>
      simp only [hcast, bind, Except.bind, pure, Except.pure, Except.ok.injEq] at h
      subst h
      have hitems := shapes?_of_castItems_of_items (fun v hv w hw => ih v hv hw) hcast
      simp [Value.shape?, Value.element, hitems]

/-- What casting makes of items is shown as their shapes. -/
theorem shapes?_of_castItems (hleaf : ∀ v w, cast v = .ok w → shown? v = some w.element)
    {vs ws : List Value} (h : castItems cast vs = .ok ws) :
    Value.shapes? shown? vs = some (Value.elements ws) :=
  shapes?_of_castItems_of_items (fun _ _ _ hw => shape?_of_castLeaves hleaf hw) h

end Caster

/-! ## The first leaf that is refused -/

section

variable {α β ε : Type} {f : α → Except ε β}

theorem exists_mapM_eq_ok_iff {xs : List α} :
    (∃ ys, xs.mapM f = .ok ys) ↔ ∀ x ∈ xs, ∃ y, f x = .ok y := by
  refine ⟨?_, exists_mapM_eq_ok⟩
  induction xs with
  | nil => simp
  | cons x xs ih =>
    rintro ⟨ys, hys⟩
    obtain ⟨y, zs, hy, hzs, rfl⟩ := mapM_cons_eq_ok.mp hys
    intro z hz
    rcases List.mem_cons.mp hz with rfl | hz
    · exact ⟨y, hy⟩
    · exact ih ⟨zs, hzs⟩ z hz

theorem mapM_eq_error_of_split {before after : List α} {x : α} {e : ε}
    (hbefore : ∀ y ∈ before, ∃ z, f y = .ok z) (hx : f x = .error e) :
    (before ++ x :: after).mapM f = .error e := by
  obtain ⟨zs, hzs⟩ := exists_mapM_eq_ok hbefore
  rw [mapM_append_eq_error, mapM_cons_eq_error]
  exact .inr ⟨zs, hzs, .inl hx⟩

end

namespace Caster

theorem exists_castItems_iff {cast : Value → Except CastError Value} {items : List Value} :
    (∃ ws, castItems cast items = .ok ws) ↔
      ∀ leaf ∈ Value.leavesOf items, ∃ w, cast leaf = .ok w := by
  rw [← exists_mapM_eq_ok_iff]
  apply exists_ok_iff_of_error_iff
  intro e
  exact castItems_eq_error

/-! ## The law -/

/-- An array can be cast exactly if the element type takes every leaf of it, at any depth. What the
column receives is then a literal that reads as an array of the same shape, each leaf cast once.
Otherwise the error is that of the first leaf that is refused. The delimiter may be any character
but the closing brace and the letters of NULL. -/
theorem arrays_are_cast_leaf_by_leaf (element : Caster) (delimiter : Char)
    (hbrace : delimiter ≠ '\x7d') (hletters : delimiter ∉ ['N', 'U', 'L']) (items : List Value) :
    ((∃ w, (array element delimiter).serialize (.array items) = .ok w) ↔
      ∀ leaf ∈ Value.leavesOf items, ∃ w, element.serialize leaf = .ok w) ∧
    (∀ w, (array element delimiter).serialize (.array items) = .ok w →
      ∃ literal elements, w = .text literal ∧
        Value.shapes? element.shown? items = some elements ∧
        ArrayLiteral.read? delimiter literal = some elements) ∧
    (∀ before leaf after e, Value.leavesOf items = before ++ leaf :: after →
      (∀ v ∈ before, ∃ w, element.serialize v = .ok w) → element.serialize leaf = .error e →
      (array element delimiter).serialize (.array items) = .error e) := by
  rw [serialize_array]
  refine ⟨?_, ?_, ?_⟩
  · rw [← exists_castItems_iff]
    cases castItems element.serialize items with
    | error e => simp [Except.map]
    | ok ws => simp [Except.map]
  · intro w hw
    cases hcast : castItems element.serialize items with
    | error e => simp [hcast, Except.map] at hw
    | ok ws =>
      simp only [hcast, Except.map, Except.ok.injEq] at hw
      have hshapes := shapes?_of_castItems (fun v w => shown?_of_serialize) hcast
      have hreads := ArrayLiteral.reads_items hbrace hletters ws
      exact ⟨_, _, hw.symm, hshapes, ArrayLiteral.read?_braced hreads⟩
  · intro before leaf after e hsplit hbefore hleaf
    have hcast : castItems element.serialize items = .error e := by
      rw [castItems_eq_error, hsplit]
      exact mapM_eq_error_of_split hbefore hleaf
    simp [hcast, Except.map]

/-- Numbers, a numeral, a truth value, a null and an empty array are cast, and of two leaves that no
integer column takes the first in order is named, although it lies deeper. -/
theorem arrays_are_cast_leaf_by_leaf_in_two :
    let items : List Value :=
      [.array [.integer 1, .text " 7 "], .null, .array [.array [], .bool true]]
    let bad : List Value := [.integer 1, .array [.array [.text "x"]], .bytes []]
    ';' ≠ '\x7d' ∧ ';' ∉ ['N', 'U', 'L'] ∧
    (∀ leaf ∈ Value.leavesOf items, ∃ w, (ofBytes 4).serialize leaf = .ok w) ∧
    ArrayLiteral.read? ';' "\x7b\x7b1;7\x7d;NULL;\x7b\x7b\x7d;1\x7d\x7d" =
      some [.array [.text "1", .text "7"], .null, .array [.array [], .text "1"]] ∧
    Value.leavesOf bad = [.integer 1, .text "x", .bytes []] ∧
    (array (ofBytes 4) ';').serialize (.array bad) =
      .error (.invalid (.text "x") "integer") := by
  intro items bad
  have hbrace : ';' ≠ '\x7d' := by decide
  have hletters : ';' ∉ ['N', 'U', 'L'] := by decide
  obtain ⟨hiff, hread, -⟩ := arrays_are_cast_leaf_by_leaf (ofBytes 4) ';' hbrace hletters items
  obtain ⟨-, -, herror⟩ := arrays_are_cast_leaf_by_leaf (ofBytes 4) ';' hbrace hletters bad
  refine ⟨hbrace, hletters, hiff.mp ⟨_, rfl⟩, ?_, rfl, ?_⟩
  · obtain ⟨literal, elements, hliteral, helements, hall⟩ := hread _ rfl
    cases hliteral
    cases helements
    exact hall
  · refine herror [.integer 1] (.text "x") [.bytes []] _ rfl ?_ rfl
    intro v hv
    rw [List.mem_singleton.mp hv]
    exact ⟨_, rfl⟩

end Caster

end SqlTree
