-- The binds of a statement are the bind leaves of its query, from left to right: none is lost, none
-- is added, and no two change places.
import SqlTree.Proofs.Gathering
import SqlTree.Proofs.Substitution

namespace SqlTree

/-! ## Bind leaves -/

/-- Whether a grammar has one bind for each value of a list. -/
def InList.isPerValue (g : Grammar) (m : InList Caster Value) : Bool :=
  g == .standard || m.column.type.kind == .binary || m.column.type.kind == .json

/-- One bind for each candidate. -/
def InList.valueBinds (m : InList Caster Value) : List (Bind Caster Value) :=
  match m.candidates with
  | .ok vs => vs.map fun v => { name := m.column.name, value := v, type := m.column.type }
  | .error _ => []

/-- One bind with all candidates in an array. -/
def InList.arrayBinds (m : InList Caster Value) : List (Bind Caster Value) :=
  match m.candidates with
  | .ok vs => [{ name := m.column.name, value := .array vs, type := .array m.column.type ',' }]
  | .error _ => []

namespace Node

/-- The binds that a node has of its own. -/
def ownBinds (g : Grammar) : Query → List (Bind Caster Value)
  | .bind b => [b]
  | .inList m => if m.isPerValue g then m.valueBinds else m.arrayBinds
  | _ => []

/-- The bind leaves of a tree, in the order in which a grammar visits them. -/
def bindLeaves (g : Grammar) (n : Query) : List (Bind Caster Value) :=
  n.gatherVisited g (ownBinds g)

end Node

/-! ## The binds of a rendering -/

theorem Render.inList_eq (g : Grammar) (d : Dialect) (m : InList Caster Value) :
    Render.inList g d m =
      if m.isPerValue g then Render.perValueInList d m else Render.arrayInList d m := by
  unfold Render.inList InList.isPerValue
  cases g with
  | standard => rfl
  | postgres => cases m.column.type.kind <;> rfl

/-- A rendering that goes through has these binds. -/
def Rendering.HasBinds (r : Rendering) (bs : List (Bind Caster Value)) : Prop :=
  r.error = none → Piece.binds r.pieces = bs

namespace Rendering

theorem hasBinds_addsUp : AddsUp HasBinds where
  empty := fun _ => rfl
  text := fun _ _ => rfl
  append := by
    intro a b x y ha hb h
    obtain ⟨hea, heb⟩ := append_error_eq_none.mp h
    rw [append_pieces hea, Piece.binds_append, ha hea, hb heb]

theorem hasBinds_fail (e : CompileError) (bs : List (Bind Caster Value)) :
    (fail e).HasBinds bs := by
  intro h
  simp at h

theorem hasBinds_binds (bs : List (Bind Caster Value)) : (binds bs).HasBinds bs := by
  induction bs with
  | nil => exact fun _ => rfl
  | cons b bs ih =>
    cases bs with
    | nil => exact fun _ => rfl
    | cons c bs =>
      have hb : (bind b).HasBinds [b] := fun _ => rfl
      exact hasBinds_addsUp.append hb (hasBinds_addsUp.before ", " ih)

theorem hasBinds_literal (r : Except CastError Value) : (literal r).HasBinds [] := by
  cases r with
  | ok v => exact hasBinds_addsUp.text _
  | error e => exact hasBinds_fail _ _

theorem hasBinds_perValueInList (d : Dialect) (m : InList Caster Value) :
    (Render.perValueInList d m).HasBinds m.valueBinds := by
  have hvarying : varying.HasBinds [] := fun _ => rfl
  refine hasBinds_addsUp.append hvarying (hasBinds_addsUp.append (hasBinds_addsUp.column _)
    (hasBinds_addsUp.before _ (hasBinds_addsUp.after _ ?_)))
  cases m.candidates with
  | error e => exact hasBinds_fail _ _
  | ok vs =>
    cases vs with
    | nil => exact hasBinds_addsUp.text _
    | cons v vs => exact hasBinds_binds _

theorem hasBinds_arrayInList (d : Dialect) (m : InList Caster Value) :
    (Render.arrayInList d m).HasBinds m.arrayBinds := by
  refine hasBinds_addsUp.append (hasBinds_addsUp.column _)
    (hasBinds_addsUp.before _ (hasBinds_addsUp.after _ ?_))
  cases m.candidates with
  | error e => exact hasBinds_fail _ _
  | ok vs => exact fun _ => rfl

theorem hasBinds_tally (d : Dialect) : Tally d (Node.ownBinds d.grammar) HasBinds where
  toAddsUp := hasBinds_addsUp
  bind := fun _ _ => rfl
  casted := fun c v => hasBinds_literal _
  inList := by
    intro m
    rw [Render.inList_eq, Node.ownBinds]
    split
    · exact hasBinds_perValueInList d m
    · exact hasBinds_arrayInList d m
  elements := fun _ _ _ _ _ _ => rfl
  unsupported := fun n _ _ => hasBinds_fail _ _
  quiet := by
    intro n h
    cases n with
    | bind b => cases h
    | inList m => cases h
    | _ => rfl
  null := by
    intro n h
    cases n with
    | bind b => cases h
    | inList m => cases h
    | _ => rfl

end Rendering

/-! ## The law -/

/-- The binds of a statement are the bind leaves of its query, in the order of the visits. -/
theorem Node.binds_are_the_leaves_in_order (n : Query) (s : Statement) :
    (n.compile .postgres = .ok s → s.binds = n.bindLeaves .postgres) ∧
    (n.compile .generic = .ok s → s.binds = n.bindLeaves .standard) := by
  constructor
  · intro hs
    obtain ⟨hr, rfl⟩ := compile_eq_ok.mp hs
    exact (Rendering.hasBinds_tally .postgres).render n hr
  · intro hs
    obtain ⟨hr, rfl⟩ := compile_eq_ok.mp hs
    exact (Rendering.hasBinds_tally .generic).render n hr

/-- A test against no values, which leaves its operand out, a test against a list of values, and a
comparison that the standard says with both operands twice. -/
theorem Node.binds_are_the_leaves_in_order_of_three_tests :
    let a : Bind Caster Value := ⟨"a", .text "x", .text⟩
    let b : Bind Caster Value := ⟨"b", .null, .boolean⟩
    let tags : Column Caster := ⟨none, "tags", .text⟩
    let tag (v : Value) : Bind Caster Value := ⟨"tags", v, .text⟩
    let n : Query := .and [.binary .isIn (.bind a) (.list []),
      .inList ⟨tags, [.text "x", .text "y"], .isIn⟩, .binary .distinctFrom (.bind a) (.bind b)]
    n.bindLeaves .postgres = [⟨"tags", .array [.text "x", .text "y"], .array .text ','⟩, a, b] ∧
      n.bindLeaves .standard = [tag (.text "x"), tag (.text "y"), a, b, a, b] := by
  intro a b tags tag n
  have hpostgres := (Node.binds_are_the_leaves_in_order n _).1 rfl
  have hgeneric := (Node.binds_are_the_leaves_in_order n _).2 rfl
  exact ⟨hpostgres.symm, hgeneric.symm⟩

end SqlTree
