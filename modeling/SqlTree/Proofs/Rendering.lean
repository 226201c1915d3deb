-- The laws of renderings: what follows when one comes after another, and what a node renders as,
-- given what its children render as.
import SqlTree.Proofs.Rules

namespace SqlTree

/-! ## One rendering after another -/

namespace Rendering

@[simp] theorem text_pieces (s : String) : (text s).pieces = [.text s] := rfl

@[simp] theorem bind_pieces (b : Bind Caster Value) : (bind b).pieces = [.bind b] := rfl

@[simp] theorem fail_error (e : CompileError) : (fail e).error = some e := rfl

theorem append_of_ok {a : Rendering} (h : a.error = none) (b : Rendering) :
    a ++ b = ⟨a.pieces ++ b.pieces, a.perValue || b.perValue, b.error⟩ := by
  show andThen a b = _
  simp [andThen, h]

theorem append_of_error {a : Rendering} {e : CompileError} (h : a.error = some e)
    (b : Rendering) : a ++ b = a := by
  show andThen a b = _
  simp [andThen, h]

/-- Two renderings go through one after another if each of them does. -/
theorem append_error_eq_none {a b : Rendering} :
    (a ++ b).error = none ↔ a.error = none ∧ b.error = none := by
  cases h : a.error with
  | none => simp [append_of_ok h]
  | some e => simp [append_of_error h, h]

theorem append_pieces {a b : Rendering} (h : a.error = none) :
    (a ++ b).pieces = a.pieces ++ b.pieces := by
  rw [append_of_ok h]

end Rendering

/-! ## What a node renders as -/

namespace Render

theorem nodes_eq_map (d : Dialect) (ns : List Query) : nodes d ns = ns.map (·.render d) := by
  induction ns with
  | nil => rfl
  | cons n ns ih => rw [nodes, ih]; rfl

theorem optionNode_eq_map (d : Dialect) (o : Option Query) :
    optionNode d o = o.map (·.render d) := by
  cases o <;> rfl

theorem column_goes_through (d : Dialect) (c : Column Caster) :
    (column d c).error = none ∧ (column d c).perValue = false := by
  unfold column
  cases c.table with
  | none => exact ⟨rfl, rfl⟩
  | some table => exact ⟨rfl, rfl⟩

theorem join_eq (d : Dialect) (j : Join Caster Value) :
    join d j = .text (joinKeyword j.kind) ++
      (j.relation.render d ++ .optional " ON " (j.on.map (·.render d))) := by
  rw [← optionNode_eq_map]
  cases j
  rfl

/-- The three ways to render a test against the elements of a list or a subquery. -/
theorem elementOf_cases (op whenEmpty : String) (right : Query) (l r : Rendering) :
    (right = .list [] ∧ elementOf op whenEmpty right l r = .text whenEmpty) ∨
    (∃ e es, right = .list (e :: es) ∧
      elementOf op whenEmpty right l r = .varying ++ (l ++ (.text op ++ (r ++ .text ")")))) ∨
    ((∀ items, right ≠ .list items) ∧
      elementOf op whenEmpty right l r = l ++ (.text op ++ (r ++ .text ")"))) := by
  unfold elementOf
  split
  · exact .inl ⟨rfl, rfl⟩
  · exact .inr (.inl ⟨_, _, rfl, rfl⟩)
  · rename_i hnil hcons
    refine .inr (.inr ⟨?_, rfl⟩)
    intro items h
    cases items with
    | nil => exact hnil h
    | cons e es => exact hcons e es h

end Render

namespace Node

open Rendering

variable (d : Dialect)

theorem render_list (items : List Query) :
    (list items).render d = joined ", " (items.map (·.render d)) := by
  rw [← Render.nodes_eq_map]; rfl

theorem render_and (operands : List Query) :
    (and operands).render d = joined " AND " (operands.map (·.render d)) := by
  rw [← Render.nodes_eq_map]; rfl

theorem render_unary (op : UnaryOp) (e : Query) :
    (unary op e).render d = Render.unary d.grammar d op e (e.render d) := rfl

theorem render_binary (op : BinaryOp) (l r : Query) :
    (binary op l r).render d = Render.binary d.grammar op r (l.render d) (r.render d) := rfl

theorem render_tableAlias (relation : Query) (name : String) :
    (tableAlias relation name).render d =
      relation.render d ++ (text " " ++ text (d.quoteTableName name)) := rfl

theorem render_between (e low high : Query) :
    (between e low high).render d = Rendering.between " BETWEEN " (e.render d)
      (Rendering.between " AND " (low.render d) (high.render d)) := rfl

theorem render_like (negated : Bool) (l r : Query) (escape : Option Query)
    (caseSensitive : Bool) :
    (like negated l r escape caseSensitive).render d =
      Render.pattern (Render.likeOperator d.grammar negated caseSensitive) (l.render d)
        (r.render d) (escape.map (·.render d)) := by
  rw [← Render.optionNode_eq_map]; rfl

theorem render_regexp (negated : Bool) (l r : Query) (caseSensitive : Bool) :
    (regexp negated l r caseSensitive).render d =
      Render.regexp d.grammar d negated caseSensitive (l.render d) (r.render d) := rfl

theorem render_call (name : String) (args : List Query) (distinct : Bool)
    (altName : Option String) :
    (call name args distinct altName).render d =
      Render.call d name (args.map (·.render d)) distinct altName := by
  rw [← Render.nodes_eq_map]; rfl

theorem render_select (s : Select Caster Value) :
    (select s).render d = text "SELECT"
      ++ (optional " " (s.distinct.map (·.render d))
      ++ (clause " " ", " (s.projections.map (·.render d))
      ++ (optional " FROM " (s.source.map (·.render d))
      ++ (Render.joins d s.joins
      ++ (clause " WHERE " " AND " (s.wheres.map (·.render d))
      ++ (clause " GROUP BY " ", " (s.groups.map (·.render d))
      ++ (clause " HAVING " " AND " (s.havings.map (·.render d))
      ++ (clause " ORDER BY " ", " (s.orders.map (·.render d))
      ++ (optional " LIMIT " (s.limit.map (·.render d))
      ++ optional " OFFSET " (s.offset.map (·.render d))))))))))) := by
  simp only [← Render.optionNode_eq_map, ← Render.nodes_eq_map]
  cases s
  rfl

end Node

end SqlTree
