-- Tests for null. A node counts as a literal null exactly if it is rendered as NULL, whatever its
-- column makes of it. So a statement that tests a literal for equality never has NULL behind the
-- sign.
import SqlTree.Proofs.CollectorRuns
import SqlTree.Proofs.Gathering
import SqlTree.Proofs.Literals
import SqlTree.Proofs.Received

namespace SqlTree

/-! ## Where a node stands in a statement -/

/-- A rendering that goes through has these in it, each of which goes through as well. -/
def Rendering.Holds (r : Rendering) (parts : List Rendering) : Prop :=
  r.error = none → ∀ part ∈ parts, part.error = none ∧ part.pieces <:+: r.pieces

namespace Rendering

theorem holds_nil (r : Rendering) : r.Holds [] := by
  intro _ part hpart
  cases hpart

theorem holds_self (r : Rendering) : r.Holds [r] := by
  intro h part hpart
  rw [List.mem_singleton.mp hpart]
  exact ⟨h, List.infix_rfl⟩

theorem holds_fail (e : CompileError) (parts : List Rendering) : (fail e).Holds parts := by
  intro h
  simp at h

theorem Holds.append {a b : Rendering} {x y : List Rendering} (ha : a.Holds x) (hb : b.Holds y) :
    (a ++ b).Holds (x ++ y) := by
  intro h part hpart
  obtain ⟨hea, heb⟩ := append_error_eq_none.mp h
  rw [append_pieces hea]
  rcases List.mem_append.mp hpart with hx | hy
  · obtain ⟨hpart, hinfix⟩ := ha hea part hx
    exact ⟨hpart, hinfix.trans (List.prefix_append _ _).isInfix⟩
  · obtain ⟨hpart, hinfix⟩ := hb heb part hy
    exact ⟨hpart, hinfix.trans (List.suffix_append _ _).isInfix⟩

/-- No node has a part of its own, besides those of its children. -/
theorem holds_tally (d : Dialect) : Tally d (fun _ => []) Holds where
  empty := holds_nil _
  text := fun _ => holds_nil _
  append := Holds.append
  bind := fun _ => holds_nil _
  casted := fun _ _ => holds_nil _
  inList := fun _ => holds_nil _
  elements := fun _ _ _ _ _ => holds_nil _
  unsupported := fun _ _ _ => holds_fail _ _
  quiet := fun _ _ => rfl
  null := fun _ _ => rfl

end Rendering

namespace Node

theorem renderedNodes_of_isOmitted {n : Query} (h : n.isOmitted = true) :
    n.renderedNodes = [n] := by
  rw [renderedNodes_eq]
  cases n with
  | quoted v => rfl
  | casted c v => rfl
  | list items =>
    cases items with
    | nil => rfl
    | cons item items => simp [isOmitted, isNull, isEmptyList] at h
  | _ => simp [isOmitted, isNull, isEmptyList] at h

/-- What is rendered of a child is in the rendering of its node. -/
theorem holds_child (d : Dialect) {n c : Query} (hc : c ∈ n.renderedChildren)
    (hkept : c.isOmitted = false) : (n.render d).Holds [c.render d] := by
  have hall := (Rendering.holds_tally d).of_children
    (f := fun c => if c.isOmitted then [] else [c.render d]) (fun c hc => if_pos hc) n
    (by
      intro c _
      split
      · exact Rendering.holds_nil _
      · exact Rendering.holds_self _)
  intro h part hpart
  refine hall h part ?_
  rw [List.nil_append, List.mem_flatMap]
  exact ⟨c, mem_visited.mpr hc, by simpa [hkept] using hpart⟩

/-- Every rendered node stands in the statement, unless it is a null or an empty list. -/
theorem holds_of_mem_renderedNodes (d : Dialect) {n e : Query} (he : e ∈ n.renderedNodes)
    (hkept : e.isOmitted = false) : (n.render d).Holds [e.render d] := by
  induction n using children_induction with
  | step n ih =>
    rw [renderedNodes_eq, List.mem_cons, List.mem_flatMap] at he
    rcases he with rfl | ⟨c, hc, hec⟩
    · exact Rendering.holds_self _
    · have hcKept : c.isOmitted = false := by
        by_contra homitted
        rw [renderedNodes_of_isOmitted (by simpa using homitted), List.mem_singleton] at hec
        rw [hec] at hkept
        exact homitted hkept
      have hinner := ih c (renderedChildren_subset n hc) hec
      have houter := holds_child d hc hcKept
      intro h part hpart
      obtain ⟨hok, hinfix⟩ := houter h _ List.mem_cons_self
      obtain ⟨hpartOk, hpartInfix⟩ := hinner hok part hpart
      exact ⟨hpartOk, hpartInfix.trans hinfix⟩

/-- The statement has the text of a part that its rendering has. -/
theorem exists_sql_eq {d : Dialect} {n : Query} {s : Statement} (hs : n.compile d = .ok s)
    {ps : List Piece} (h : ps <:+: (n.render d).pieces) :
    ∃ before index after, s.sql = before ++ (Piece.withPlaceholders d index ps ++ after) := by
  obtain ⟨-, rfl⟩ := compile_eq_ok.mp hs
  obtain ⟨first, last, hpieces⟩ := h
  simp only [← Piece.withPlaceholders_eq_weave]
  rw [← hpieces, Piece.withPlaceholders_append, Piece.withPlaceholders_append, String.append_assoc]
  exact ⟨_, _, _, rfl⟩

end Node

/-! ## Literals -/

namespace Node

/-- Whether a node is a literal, cast to the type of a column or not. -/
def isLiteral : Query → Bool
  | .quoted _ => true
  | .casted _ _ => true
  | _ => false

variable {d : Dialect} {n : Query}

theorem compile_of_render_text {t : String} (h : n.render d = .text t) :
    n.compile d = .ok { sql := t, binds := [], preparable := true } := by
  rw [compile_eq_ok, h]
  exact ⟨rfl, by simp [Piece.weave, Piece.binds, Rendering.text]⟩

theorem render_of_isNull (h : n.isNull = true) : n.render d = .text "NULL" := by
  cases n with
  | quoted v =>
    rw [show v = .null by cases v <;> first | rfl | cases h]
    rfl
  | casted c v =>
    have hv : v = .null := by cases v <;> first | rfl | cases h
    have hrender : (casted c v : Query).render d = .literal (c.type.serialize v) := rfl
    rw [hrender, hv, Caster.serialize_null]
    rfl
  | _ => cases h

/-- A literal that goes through is rendered as the literal of a value, which is null only for a
literal null. -/
theorem render_of_isLiteral (h : n.isLiteral = true) (hok : (n.render d).error = none) :
    ∃ w : Value, n.render d = .text w.literal ∧ (w = .null → n.isNull = true) := by
  cases n with
  | quoted v =>
    refine ⟨v, rfl, ?_⟩
    rintro rfl
    rfl
  | casted c v =>
    have hrender : (casted c v : Query).render d = .literal (c.type.serialize v) := rfl
    rw [hrender] at hok ⊢
    cases hv : c.type.serialize v with
    | error e => simp [hv, Rendering.literal] at hok
    | ok w =>
      refine ⟨w, rfl, ?_⟩
      rintro rfl
      by_contra hnull
      refine Caster.ne_null_of_serialize ?_ hv rfl
      rintro rfl
      exact hnull rfl
  | _ => cases h

/-- A literal counts as null exactly if it is rendered as NULL. -/
theorem isNull_iff_compile (h : n.isLiteral = true) :
    n.isNull = true ↔ ∃ s, n.compile d = .ok s ∧ s.sql = "NULL" := by
  constructor
  · intro hnull
    exact ⟨_, compile_of_render_text (render_of_isNull hnull), rfl⟩
  · rintro ⟨s, hs, hsql⟩
    obtain ⟨w, hw, hnull⟩ := render_of_isLiteral h (compile_eq_ok.mp hs).1
    rw [compile_of_render_text hw] at hs
    cases hs
    exact hnull (Value.literal_eq_null.mp hsql)

end Node

/-- No literal but that of null begins like it. -/
theorem Value.not_null_prefix_literal {v : Value} (h : v ≠ .null) (after : String) :
    ¬ "NULL".toList <+: (v.literal ++ after).toList := by
  intro hprefix
  obtain ⟨c, cs, hcs, hc⟩ := LiteralForm.exists_first v.shows_literal
  rw [String.toList_append, hcs] at hprefix
  have hfirst : c = 'N' := by
    have := List.cons_prefix_cons.mp hprefix
    exact this.1.symm
  subst hfirst
  exact h (literalForm_eq_null.mp (LiteralForm.eq_of_starts hc (g := .null) rfl))

/-! ## The law -/

namespace Node

/-- The comparisons that test for null if their right operand is a literal null: their operators,
the signs of these, and the tests. -/
def equalityTests : List (BinaryOp × String × String) :=
  [(.equal, " = ", " IS NULL"), (.notEqual, " != ", " IS NOT NULL")]

theorem render_equality {op : BinaryOp} {sign test : String}
    (hop : (op, sign, test) ∈ equalityTests) (d : Dialect) (l r : Query) :
    (binary op l r).render d =
      l.render d ++ if r.isNull then .text test else .text sign ++ r.render d := by
  have hrule : (binary op l r).render d =
      Render.nullAware sign test r (l.render d) (r.render d) := by
    simp only [equalityTests, List.mem_cons, Prod.mk.injEq, List.not_mem_nil, or_false] at hop
    rcases hop with ⟨rfl, rfl, rfl⟩ | ⟨rfl, rfl, rfl⟩ <;> rfl
  rw [hrule, Render.nullAware]
  split <;> rfl

/-- A literal counts as null exactly if its statement is NULL. A comparison for equality is rendered
with the test for null behind its left operand if the right one is null, and otherwise with the sign
and the right one. So if the right one is a literal, what follows the sign does not begin with NULL,
in any statement that the comparison stands in. -/
theorem null_tests_agree_with_the_text (d : Dialect) :
    (∀ n : Query, n.isLiteral = true →
      (n.isNull = true ↔ ∃ s, n.compile d = .ok s ∧ s.sql = "NULL")) ∧
    (∀ op sign test l r, (op, sign, test) ∈ equalityTests →
      (binary op l r).render d =
        l.render d ++ if r.isNull then .text test else .text sign ++ r.render d) ∧
    (∀ (n : Query) (s : Statement), n.compile d = .ok s →
      ∀ op sign test l r, (op, sign, test) ∈ equalityTests → r.isLiteral = true →
        .binary op l r ∈ n.renderedNodes →
        ∃ before left after, (∃ index, left = Piece.withPlaceholders d index (l.render d).pieces) ∧
          ((r.isNull = true ∧ s.sql = before ++ (left ++ (test ++ after))) ∨
          (r.isNull = false ∧ ∃ literal, s.sql = before ++ (left ++ (sign ++ (literal ++ after))) ∧
            r.compile d = .ok { sql := literal, binds := [], preparable := true } ∧
            ¬ "NULL".toList <+: (literal ++ after).toList))) := by
  refine ⟨fun n hn => isNull_iff_compile hn, fun _ _ _ l r hop => render_equality hop d l r, ?_⟩
  intro n s hs op sign test l r hop hr hmem
  obtain ⟨hok, hinfix⟩ := holds_of_mem_renderedNodes d hmem rfl (compile_eq_ok.mp hs).1 _
    List.mem_cons_self
  obtain ⟨before, index, after, hsql⟩ := exists_sql_eq hs hinfix
  rw [render_equality hop] at hok hsql
  obtain ⟨hl, hright⟩ := Rendering.append_error_eq_none.mp hok
  rw [Rendering.append_pieces hl, Piece.withPlaceholders_append, String.append_assoc] at hsql
  refine ⟨before, _, after, ⟨index, rfl⟩, ?_⟩
  by_cases hnull : r.isNull = true
  · rw [if_pos hnull] at hsql
    refine .inl ⟨hnull, ?_⟩
    simpa [Piece.withPlaceholders] using hsql
  · rw [if_neg hnull] at hright hsql
    obtain ⟨hsign, hrok⟩ := Rendering.append_error_eq_none.mp hright
    obtain ⟨w, hw, hwnull⟩ := render_of_isLiteral hr hrok
    rw [Rendering.append_pieces hsign, hw] at hsql
    refine .inr ⟨by simpa using hnull, w.literal, ?_, compile_of_render_text hw,
      w.not_null_prefix_literal (fun h => hnull (hwnull h)) after⟩
    simpa [Piece.withPlaceholders, String.append_assoc] using hsql

/-- A literal array that holds a null, compared with a bind, and a literal null under a negation. -/
theorem null_tests_agree_with_the_text_of_two :
    let a : Query := .bind ⟨"a", .text "x", .text⟩
    let tags : Query := .casted ⟨none, "tags", .array .text ','⟩ (.array [.null])
    let size : Query := .column ⟨none, "size", .ofBytes 4⟩
    let null : Query := .casted ⟨none, "size", .ofBytes 4⟩ .null
    let n : Query := .and [.binary .equal a tags, .unary .not (.binary .notEqual size null)]
    let sql := "$1 = '\x7bNULL\x7d' AND NOT (\"size\" IS NOT NULL)"
    n.compile .postgres = .ok ⟨sql, [⟨"a", .text "x", .text⟩], true⟩ ∧
    (∃ s, null.compile .postgres = .ok s ∧ s.sql = "NULL") ∧
    ¬ (∃ s, tags.compile .postgres = .ok s ∧ s.sql = "NULL") ∧
    (∃ before left after literal, sql = before ++ (left ++ (" = " ++ (literal ++ after))) ∧
      ¬ "NULL".toList <+: (literal ++ after).toList) ∧
    (∃ before left after, sql = before ++ (left ++ (" IS NOT NULL" ++ after))) := by
  intro a tags size null n sql
  obtain ⟨hliterals, -, hplaces⟩ := null_tests_agree_with_the_text .postgres
  have hn : n.compile .postgres = .ok ⟨sql, [⟨"a", .text "x", .text⟩], true⟩ := rfl
  have hmem : .binary .equal a tags ∈ n.renderedNodes ∧
      .binary .notEqual size null ∈ n.renderedNodes := by
    simp [n, a, tags, size, null, renderedNodes_eq, renderedChildren, children,
      BinaryOp.isElementTest]
  refine ⟨hn, (hliterals null rfl).mp rfl, fun h => ?_, ?_, ?_⟩
  · have hnull := (hliterals tags rfl).mpr h
    cases hnull
  · obtain ⟨before, left, after, -, ⟨hnull, -⟩ | ⟨-, literal, hsql, -, hliteral⟩⟩ :=
      hplaces n _ hn .equal " = " " IS NULL" a tags List.mem_cons_self rfl hmem.1
    · cases hnull
    · exact ⟨before, left, after, literal, hsql, hliteral⟩
  · obtain ⟨before, left, after, -, ⟨-, hsql⟩ | ⟨hnull, -⟩⟩ :=
      hplaces n _ hn .notEqual " != " " IS NOT NULL" size null
        (List.mem_cons_of_mem _ List.mem_cons_self) rfl hmem.2
    · exact ⟨before, left, after, hsql⟩
    · cases hnull

end Node

end SqlTree
