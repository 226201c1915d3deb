-- The common language of the dialects: the trees that standard SQL and PostgreSQL render alike. One
-- statement has question marks where the other numbers its placeholders, and with the values
-- written in there is no difference at all.
import SqlTree.Proofs.BindOrder

namespace SqlTree

/-! ## The common language -/

namespace Node

/-- All nodes of a tree, the tree itself first. -/
def nodes {τ ν : Type} (n : Node τ ν) : List (Node τ ν) :=
  n.gather children (fun _ => List.Subset.refl _) fun c => [c]

theorem nodes_eq {τ ν : Type} (n : Node τ ν) : n.nodes = n :: n.children.flatMap nodes :=
  gather_eq children (fun _ => List.Subset.refl _) _ n

theorem mem_nodes_self {τ ν : Type} (n : Node τ ν) : n ∈ n.nodes := by
  rw [nodes_eq]
  exact List.mem_cons_self

theorem mem_nodes_of_child {τ ν : Type} {n c x : Node τ ν} (hc : c ∈ n.children)
    (hx : x ∈ c.nodes) : x ∈ n.nodes := by
  rw [nodes_eq]
  exact List.mem_cons_of_mem _ (List.mem_flatMap.mpr ⟨c, hc, hx⟩)

/-- Whether the dialects have one rule for a node. They differ on what only PostgreSQL has, on
comparisons for which a null equals a null, on patterns that ignore case, and on lists of values
that PostgreSQL sends as an array. -/
def isCommon : Query → Bool
  | .unary op _ => op.isStandard
  | .binary op _ _ => !op.isDistinctTest
  | .like _ _ _ _ caseSensitive => caseSensitive
  | .regexp _ _ _ _ => false
  | .inList m => m.column.type.kind != .scalar && m.column.type.kind != .array
  | _ => true

end Node

/-! ## One node -/

namespace Render

theorem unary_common {op : UnaryOp} (h : op.isStandard = true) (e : Query) (r : Rendering) :
    unary .standard .generic op e r = unary .postgres .postgres op e r := by
  cases op with
  | grouping | not | ascending | descending | nullsFirst | nullsLast => rfl
  | distinctOn | groupingElement | cube | rollUp | groupingSet | lateral => cases h

theorem binary_common {op : BinaryOp} (h : op.isDistinctTest = false) (right : Query)
    (l r : Rendering) : binary .standard op right l r = binary .postgres op right l r := by
  cases op with
  | distinctFrom | notDistinctFrom => cases h
  | _ => rfl

theorem likeOperator_common (negated : Bool) :
    likeOperator .standard negated true = likeOperator .postgres negated true := by
  cases negated <;> rfl

theorem inList_common {m : InList Caster Value} (hscalar : m.column.type.kind ≠ .scalar)
    (harray : m.column.type.kind ≠ .array) :
    inList .standard .generic m = inList .postgres .postgres m := by
  unfold inList
  cases h : m.column.type.kind with
  | scalar => exact absurd h hscalar
  | array => exact absurd h harray
  | binary => rfl
  | json => rfl

end Render

namespace Node

/-- Renderings in the two dialects are one and the same. -/
def RendersAlike (n : Query) : Prop := n.render .generic = n.render .postgres

theorem map_render_alike (ns : List Query) (h : ∀ c ∈ ns, c.RendersAlike) :
    ns.map (·.render .generic) = ns.map (·.render .postgres) :=
  List.map_congr_left h

theorem optionMap_render_alike (o : Option Query) (h : ∀ c ∈ o.toList, c.RendersAlike) :
    o.map (·.render .generic) = o.map (·.render .postgres) :=
  Option.map_congr fun c hc => h c (Option.mem_toList.mpr hc)

theorem joins_alike (js : List (Join Caster Value))
    (h : ∀ c ∈ js.flatMap Join.children, c.RendersAlike) :
    Render.joins .generic js = Render.joins .postgres js := by
  induction js with
  | nil => rfl
  | cons j js ih =>
    rw [List.flatMap_cons, List.forall_mem_append] at h
    obtain ⟨hj, hjs⟩ := h
    obtain ⟨hrelation, hon⟩ := List.forall_mem_cons.mp hj
    have hrelation : j.relation.render .generic = j.relation.render .postgres := hrelation
    rw [Render.joins, Render.joins, Render.join_eq, Render.join_eq, hrelation,
      optionMap_render_alike j.on hon, ih hjs]

theorem select_alike (s : Select Caster Value) (h : ∀ c ∈ s.children, c.RendersAlike) :
    (select s).RendersAlike := by
  simp only [Select.children, List.forall_mem_append] at h
  obtain ⟨hdistinct, hprojections, hsource, hjoins, hwheres, hgroups, hhavings, horders, hlimit,
    hoffset⟩ := h
  unfold RendersAlike
  rw [render_select, render_select, optionMap_render_alike s.distinct hdistinct,
    map_render_alike s.projections hprojections, optionMap_render_alike s.source hsource,
    joins_alike s.joins hjoins, map_render_alike s.wheres hwheres,
    map_render_alike s.groups hgroups, map_render_alike s.havings hhavings,
    map_render_alike s.orders horders, optionMap_render_alike s.limit hlimit,
    optionMap_render_alike s.offset hoffset]

/-- A node of the common language renders alike if its children do. -/
theorem rendersAlike_of_children {n : Query} (hn : n.isCommon = true)
    (ih : ∀ c ∈ n.children, c.RendersAlike) : n.RendersAlike := by
  cases n with
  | sql | star | distinct | column | table | quoted | casted | bind => rfl
  | list items =>
    unfold RendersAlike
    rw [render_list, render_list, map_render_alike items ih]
  | and operands =>
    unfold RendersAlike
    rw [render_and, render_and, map_render_alike operands ih]
  | unary op e =>
    have he : e.render .generic = e.render .postgres := ih e (.head _)
    unfold RendersAlike
    rw [render_unary, render_unary, he]
    exact Render.unary_common hn e _
  | binary op l r =>
    have hop : op.isDistinctTest = false := by simpa [isCommon] using hn
    have hl : l.render .generic = l.render .postgres := ih l (.head _)
    have hr : r.render .generic = r.render .postgres := ih r (.tail _ (.head _))
    unfold RendersAlike
    rw [render_binary, render_binary, hl, hr]
    exact Render.binary_common hop r _ _
  | tableAlias relation name =>
    have hrelation : relation.render .generic = relation.render .postgres :=
      ih relation (.head _)
    unfold RendersAlike
    rw [render_tableAlias, render_tableAlias, hrelation]
    rfl
  | between e low high =>
    have he : e.render .generic = e.render .postgres := ih e (.head _)
    have hlow : low.render .generic = low.render .postgres := ih low (.tail _ (.head _))
    have hhigh : high.render .generic = high.render .postgres :=
      ih high (.tail _ (.tail _ (.head _)))
    unfold RendersAlike
    rw [render_between, render_between, he, hlow, hhigh]
  | like negated l r escape caseSensitive =>
    have hcase : caseSensitive = true := hn
    have hl : l.render .generic = l.render .postgres := ih l (.head _)
    have hr : r.render .generic = r.render .postgres := ih r (.tail _ (.head _))
    have hescape := optionMap_render_alike escape fun c hc => ih c (.tail _ (.tail _ hc))
    unfold RendersAlike
    rw [render_like, render_like, hl, hr, hescape, hcase]
    exact congrArg (Render.pattern · _ _ _) (Render.likeOperator_common negated)
  | regexp negated l r caseSensitive => cases hn
  | call name args distinct altName =>
    unfold RendersAlike
    rw [render_call, render_call, map_render_alike args ih]
    rfl
  | inList m =>
    have hkind : m.column.type.kind ≠ .scalar ∧ m.column.type.kind ≠ .array := by
      simpa [isCommon] using hn
    exact Render.inList_common hkind.1 hkind.2
  | select s => exact select_alike s ih

/-! ## Whole trees -/

/-- A tree of the common language renders alike in both dialects. -/
theorem rendersAlike_of_common (n : Query) (h : ∀ c ∈ n.nodes, c.isCommon = true) :
    n.RendersAlike := by
  induction n using children_induction with
  | step n ih =>
    refine rendersAlike_of_children (h n (mem_nodes_self n)) ?_
    intro c hc
    exact ih c hc fun x hx => h x (mem_nodes_of_child hc hx)

/-- The standard's placeholders are question marks. -/
theorem generic_placeholders (count : Nat) :
    (List.range' 1 count).map Dialect.generic.placeholder = List.replicate count "?" := by
  rw [List.eq_replicate_iff]
  refine ⟨by simp, ?_⟩
  intro s hs
  obtain ⟨index, -, rfl⟩ := List.mem_map.mp hs
  rfl

/-! ## The law -/

/-- On their common language the dialects fail with the same error, or give statements with the same
binds and the same texts around the placeholders; with the values written in, their answers are the
same. -/
theorem dialects_agree_on_their_common_language (n : Query)
    (h : ∀ c ∈ n.nodes, c.isCommon = true) :
    ((∃ e, n.compile .generic = .error e ∧ n.compile .postgres = .error e) ∨
      ∃ s t texts, n.compile .generic = .ok s ∧ n.compile .postgres = .ok t ∧
        s.binds = t.binds ∧ s.preparable = t.preparable ∧ texts.length = s.binds.length + 1 ∧
        s.sql = interleave texts (List.replicate s.binds.length "?") ∧
        t.sql = interleave texts
          ((List.range' 1 s.binds.length).map Dialect.postgres.placeholder)) ∧
    n.toSql .generic = n.toSql .postgres := by
  have halike : n.render .generic = n.render .postgres := rendersAlike_of_common n h
  refine ⟨?_, by rw [toSql_eq, toSql_eq, halike]⟩
  cases hr : (n.render .postgres).error with
  | some e =>
    refine .inl ⟨e, compile_eq_error.mpr ?_, compile_eq_error.mpr hr⟩
    rw [halike, hr]
  | none =>
    have hs := compile_eq_ok.mpr ⟨halike ▸ hr, rfl⟩
    have ht := compile_eq_ok.mpr ⟨hr, rfl⟩
    refine .inr ⟨_, _, Piece.texts (n.render .postgres).pieces, hs, ht, ?_, ?_, ?_, ?_, ?_⟩
    · rw [halike]
    · rw [halike]
    · rw [halike, Piece.texts_length]
    · rw [halike, generic_placeholders, Piece.weave_eq_interleave _ _ (by simp)]
    · rw [halike, Piece.weave_eq_interleave _ _ (by simp)]

/-- A pattern that minds case and a list of values for a binary column. -/
theorem dialects_agree_on_their_common_language_of_two :
    let n : Query := .and [.like false (.sql "name") (.bind ⟨"name", .text "a%", .text⟩) none true,
      .inList ⟨⟨none, "data", .bytea⟩, [.text "a", .null, .text "b"], .notIn⟩]
    (∀ c ∈ n.nodes, c.isCommon = true) ∧
    (∃ texts : List String, texts.length = 4 ∧
      "name LIKE ? AND \"data\" NOT IN (?, ?)" = interleave texts ["?", "?", "?"] ∧
      "name LIKE $1 AND \"data\" NOT IN ($2, $3)" = interleave texts ["$1", "$2", "$3"]) ∧
    n.toSql .generic = n.toSql .postgres := by
  intro n
  have hcommon : ∀ c ∈ n.nodes, c.isCommon = true := by
    simp [n, nodes_eq, children, isCommon, Caster.kind]
  obtain ⟨⟨e, he, -⟩ | ⟨s, t, texts, hs, ht, -, -, hlength, hsql, hsql'⟩, hvalues⟩ :=
    dialects_agree_on_their_common_language n hcommon
  · cases he
  · cases hs
    cases ht
    exact ⟨hcommon, ⟨texts, hlength, hsql, hsql'⟩, hvalues⟩

end Node

end SqlTree
