-- Two renderings side by side. If two trees are made from one by changing leaves, and the
-- renderings of the leaves are related, then so are the renderings of the trees, by every relation
-- that goes along with putting one rendering after another.
import SqlTree.Proofs.Children
import SqlTree.Proofs.Rendering

namespace SqlTree

/-! ## Changing leaves -/

mutual
/-- The tree with every leaf changed. -/
def Node.mapLeaves (f : Query → Query) : Query → Query
  | .list items => .list (Node.mapLeavesOf f items)
  | .and operands => .and (Node.mapLeavesOf f operands)
  | .unary op e => .unary op (e.mapLeaves f)
  | .binary op l r => .binary op (l.mapLeaves f) (r.mapLeaves f)
  | .tableAlias relation name => .tableAlias (relation.mapLeaves f) name
  | .between e low high => .between (e.mapLeaves f) (low.mapLeaves f) (high.mapLeaves f)
  | .like negated l r escape caseSensitive =>
    .like negated (l.mapLeaves f) (r.mapLeaves f) (Node.mapLeavesOption f escape) caseSensitive
  | .regexp negated l r caseSensitive =>
    .regexp negated (l.mapLeaves f) (r.mapLeaves f) caseSensitive
  | .call name args distinct altName => .call name (Node.mapLeavesOf f args) distinct altName
  | .select s => .select (s.mapLeaves f)
  | leaf => f leaf

def Node.mapLeavesOf (f : Query → Query) : List Query → List Query
  | [] => []
  | n :: ns => n.mapLeaves f :: Node.mapLeavesOf f ns

def Node.mapLeavesOption (f : Query → Query) : Option Query → Option Query
  | none => none
  | some n => some (n.mapLeaves f)

def Node.mapLeavesJoins (f : Query → Query) : List (Join Caster Value) → List (Join Caster Value)
  | [] => []
  | ⟨kind, relation, on⟩ :: js =>
    ⟨kind, relation.mapLeaves f, Node.mapLeavesOption f on⟩ :: Node.mapLeavesJoins f js

def Select.mapLeaves (f : Query → Query) : Select Caster Value → Select Caster Value
  | ⟨distinct, projections, source, js, wheres, groups, havings, orders, limit, offset⟩ =>
    ⟨Node.mapLeavesOption f distinct, Node.mapLeavesOf f projections,
      Node.mapLeavesOption f source, Node.mapLeavesJoins f js, Node.mapLeavesOf f wheres,
      Node.mapLeavesOf f groups, Node.mapLeavesOf f havings, Node.mapLeavesOf f orders,
      Node.mapLeavesOption f limit, Node.mapLeavesOption f offset⟩
end

/-! ## Changing children -/

def Join.mapChildren (f : Query → Query) (j : Join Caster Value) : Join Caster Value :=
  { j with relation := f j.relation, on := j.on.map f }

def Select.mapChildren (f : Query → Query) (s : Select Caster Value) : Select Caster Value :=
  { distinct := s.distinct.map f
    projections := s.projections.map f
    source := s.source.map f
    joins := s.joins.map (Join.mapChildren f)
    wheres := s.wheres.map f
    groups := s.groups.map f
    havings := s.havings.map f
    orders := s.orders.map f
    limit := s.limit.map f
    offset := s.offset.map f }

/-- The node with each of its children changed. -/
def Node.mapChildren (f : Query → Query) : Query → Query
  | .list items => .list (items.map f)
  | .and operands => .and (operands.map f)
  | .unary op e => .unary op (f e)
  | .binary op l r => .binary op (f l) (f r)
  | .tableAlias relation name => .tableAlias (f relation) name
  | .between e low high => .between (f e) (f low) (f high)
  | .like negated l r escape caseSensitive =>
    .like negated (f l) (f r) (escape.map f) caseSensitive
  | .regexp negated l r caseSensitive => .regexp negated (f l) (f r) caseSensitive
  | .call name args unique altName => .call name (args.map f) unique altName
  | .select s => .select (s.mapChildren f)
  | leaf => leaf

namespace Node

variable (f : Query → Query)

theorem mapLeavesOf_eq_map (ns : List Query) : mapLeavesOf f ns = ns.map (mapLeaves f) := by
  induction ns with
  | nil => rfl
  | cons n ns ih => rw [mapLeavesOf, ih, List.map_cons]

theorem mapLeavesOption_eq_map (o : Option Query) :
    mapLeavesOption f o = o.map (mapLeaves f) := by
  cases o <;> rfl

theorem mapLeavesJoins_eq_map (js : List (Join Caster Value)) :
    mapLeavesJoins f js = js.map (Join.mapChildren (mapLeaves f)) := by
  induction js with
  | nil => rfl
  | cons j js ih =>
    obtain ⟨kind, relation, on⟩ := j
    rw [mapLeavesJoins, ih, mapLeavesOption_eq_map, List.map_cons]
    rfl

/-- Leaves are changed at a leaf itself or at the children. -/
theorem mapLeaves_cases (n : Query) :
    (∀ f, n.mapLeaves f = f n) ∨ ∀ f, n.mapLeaves f = n.mapChildren (mapLeaves f) := by
  cases n with
  | sql | star | distinct | column | table | quoted | casted | bind | inList =>
    exact .inl fun _ => rfl
  | select s =>
    refine .inr fun f => ?_
    cases s
    simp only [mapLeaves, Select.mapLeaves, mapLeavesOf_eq_map, mapLeavesOption_eq_map,
      mapLeavesJoins_eq_map]
    rfl
  | _ =>
    refine .inr fun f => ?_
    simp only [mapLeaves, mapLeavesOf_eq_map, mapLeavesOption_eq_map]
    rfl

theorem mapChildren_id (n : Query) : n.mapChildren id = n := by
  have hjoin : Join.mapChildren id = id := by
    funext j
    cases j
    simp [Join.mapChildren]
  cases n with
  | select s =>
    cases s
    simp [mapChildren, Select.mapChildren, hjoin]
  | _ => simp [mapChildren]

theorem map_option_congr {f g : Query → Query} {o : Option Query}
    (h : ∀ c ∈ o.toList, f c = g c) : o.map f = o.map g :=
  Option.map_congr fun c hc => h c (by simp [hc])

theorem mapChildren_joins_congr {f g : Query → Query} {js : List (Join Caster Value)}
    (h : ∀ c ∈ js.flatMap Join.children, f c = g c) :
    js.map (Join.mapChildren f) = js.map (Join.mapChildren g) := by
  refine List.map_congr_left fun j hj => ?_
  have hchildren : ∀ c ∈ j.children, f c = g c := fun c hc =>
    h c (List.mem_flatMap.mpr ⟨j, hj, hc⟩)
  obtain ⟨hrelation, hon⟩ := List.forall_mem_cons.mp hchildren
  rw [Join.mapChildren, Join.mapChildren, hrelation, map_option_congr hon]

/-- Changes that agree on the children of a node agree on the node. -/
theorem mapChildren_congr {f g : Query → Query} {n : Query} (h : ∀ c ∈ n.children, f c = g c) :
    n.mapChildren f = n.mapChildren g := by
  cases n with
  | list items => exact congrArg list (List.map_congr_left h)
  | and operands => exact congrArg and (List.map_congr_left h)
  | call name args unique altName =>
    exact congrArg (call name · unique altName) (List.map_congr_left h)
  | like negated l r escape caseSensitive =>
    obtain ⟨hl, hrest⟩ := List.forall_mem_cons.mp h
    obtain ⟨hr, hescape⟩ := List.forall_mem_cons.mp hrest
    rw [mapChildren, mapChildren, hl, hr, map_option_congr hescape]
  | select s =>
    simp only [children, Select.children, List.forall_mem_append] at h
    obtain ⟨hd, hp, hf, hj, hw, hg, hh, ho, hl, hof⟩ := h
    simp only [mapChildren, Select.mapChildren, map_option_congr hd, List.map_congr_left hp,
      map_option_congr hf, mapChildren_joins_congr hj, List.map_congr_left hw,
      List.map_congr_left hg, List.map_congr_left hh, List.map_congr_left ho, map_option_congr hl,
      map_option_congr hof]
  | unary | binary | tableAlias | between | regexp => simp_all [mapChildren, children]
  | _ => rfl

/-- A tree whose leaves stay as they are stays as it is. -/
theorem mapLeaves_id (n : Query) : n.mapLeaves id = n := by
  induction n using children_induction with
  | step n ih =>
    rcases mapLeaves_cases n with h | h
    · exact h id
    · rw [h, mapChildren_congr ih]
      exact mapChildren_id n

/-! ## Looks -/

/-- What a rule can see of an operand. -/
inductive Look where
  | grouping
  | emptyList
  | list
  | statement
  | null
  | other
deriving DecidableEq, Repr

def look : Query → Look
  | .unary .grouping _ => .grouping
  | .list [] => .emptyList
  | .list (_ :: _) => .list
  | .select _ => .statement
  | .quoted v => if v.isNull then .null else .other
  | .casted _ v => if v.isNull then .null else .other
  | _ => .other

theorem look_mapChildren (f : Query → Query) (n : Query) : (n.mapChildren f).look = n.look := by
  cases n with
  | list items => cases items <;> rfl
  | unary op e => cases op <;> rfl
  | _ => rfl

theorem look_mapLeaves {f g : Query → Query} (h : ∀ n, (g n).look = (f n).look) (n : Query) :
    (n.mapLeaves g).look = (n.mapLeaves f).look := by
  cases n with
  | list items => cases items <;> rfl
  | unary op e => cases op <;> rfl
  | sql | star | distinct | column | table | quoted | casted | bind | inList => exact h _
  | _ => rfl

theorem isNull_eq (n : Query) : n.isNull = decide (n.look = .null) := by
  cases n with
  | quoted v => cases v <;> rfl
  | casted c v => cases v <;> rfl
  | list items => cases items <;> rfl
  | unary op e => cases op <;> rfl
  | _ => rfl

end Node

namespace Render

open Rendering

theorem parenthesized_eq (e : Query) (r : Rendering) :
    parenthesized e r = if e.look = .grouping then r else text "(" ++ (r ++ text ")") := by
  cases e with
  | quoted v => cases v <;> rfl
  | casted c v => cases v <;> rfl
  | list items => cases items <;> rfl
  | unary op e => cases op <;> rfl
  | _ => rfl

theorem groupingItems_eq (e : Query) (r : Rendering) :
    groupingItems e r = if e.look = .emptyList ∨ e.look = .list
      then text "( " ++ (r ++ text " )") else r := by
  cases e with
  | quoted v => cases v <;> rfl
  | casted c v => cases v <;> rfl
  | list items => cases items <;> rfl
  | unary op e => cases op <;> rfl
  | _ => rfl

theorem subquery_eq (e : Query) (r : Rendering) :
    subquery e r = if e.look = .statement then text "(" ++ (r ++ text ")") else r := by
  cases e with
  | quoted v => cases v <;> rfl
  | casted c v => cases v <;> rfl
  | list items => cases items <;> rfl
  | unary op e => cases op <;> rfl
  | _ => rfl

theorem elementOf_eq (op whenEmpty : String) (right : Query) (l r : Rendering) :
    elementOf op whenEmpty right l r =
      if right.look = .emptyList then text whenEmpty
      else if right.look = .list then varying ++ (l ++ (text op ++ (r ++ text ")")))
      else l ++ (text op ++ (r ++ text ")")) := by
  cases right with
  | quoted v => cases v <;> rfl
  | casted c v => cases v <;> rfl
  | list items => cases items <;> rfl
  | unary op e => cases op <;> rfl
  | _ => rfl

end Render

/-! ## Relations between renderings -/

/-- A relation between renderings that goes along with putting one after another. -/
structure Congruence (R : Rendering → Rendering → Prop) : Prop where
  refl : ∀ r, R r r
  append : ∀ {a a' b b'}, R a a' → R b b' → R (a ++ b) (a' ++ b')

/-- Equality goes along with putting one rendering after another. -/
theorem Rendering.eq_congruence : Congruence (Eq : Rendering → Rendering → Prop) where
  refl := fun _ => rfl
  append := by
    intro a a' b b' ha hb
    rw [ha, hb]

namespace Congruence

open Rendering

variable {R : Rendering → Rendering → Prop} {α : Type} {a b : α → Rendering}
  {l l' r r' : Rendering}

theorem before (t : Congruence R) (s : String) (h : R r r') : R (text s ++ r) (text s ++ r') :=
  t.append (t.refl _) h

theorem after (t : Congruence R) (s : String) (h : R r r') : R (r ++ text s) (r' ++ text s) :=
  t.append h (t.refl _)

theorem between (t : Congruence R) (op : String) (hl : R l l') (hr : R r r') :
    R (.between op l r) (.between op l' r') :=
  t.append hl (t.before op hr)

theorem optional (t : Congruence R) (lead : String) (o : Option α)
    (h : ∀ x ∈ o.toList, R (a x) (b x)) :
    R (.optional lead (o.map a)) (.optional lead (o.map b)) := by
  cases o with
  | none => exact t.refl _
  | some x => exact t.before lead (h x (by simp))

theorem joined (t : Congruence R) (separator : String) (xs : List α)
    (h : ∀ x ∈ xs, R (a x) (b x)) :
    R (.joined separator (xs.map a)) (.joined separator (xs.map b)) := by
  induction xs with
  | nil => exact t.refl _
  | cons x xs ih =>
    have hx := h x (by simp)
    have hxs := ih fun y hy => h y (by simp [hy])
    cases xs with
    | nil => exact hx
    | cons y ys => exact t.append hx (t.before separator hxs)

theorem clause (t : Congruence R) (lead separator : String) (xs : List α)
    (h : ∀ x ∈ xs, R (a x) (b x)) :
    R (.clause lead separator (xs.map a)) (.clause lead separator (xs.map b)) := by
  cases xs with
  | nil => exact t.refl _
  | cons x xs => exact t.before lead (t.joined separator (x :: xs) h)

theorem call (t : Congruence R) (d : Dialect) (name : String) (xs : List α) (distinct : Bool)
    (altName : Option String) (h : ∀ x ∈ xs, R (a x) (b x)) :
    R (Render.call d name (xs.map a) distinct altName)
      (Render.call d name (xs.map b) distinct altName) := by
  refine t.before _ (t.before _ (t.append (t.refl _) ?_))
  exact t.append (t.joined ", " xs h) (t.refl _)

theorem unary (t : Congruence R) (g : Grammar) (d : Dialect) (op : UnaryOp) {e e' : Query}
    (hlook : e'.look = e.look) (h : R r r') :
    R (Render.unary g d op e r) (Render.unary g d op e' r') := by
  have hparens : R (Render.parenthesized e r) (Render.parenthesized e' r') := by
    rw [Render.parenthesized_eq, Render.parenthesized_eq, hlook]
    split
    · exact h
    · exact t.before _ (t.after _ h)
  have hitems : R (Render.groupingItems e r) (Render.groupingItems e' r') := by
    rw [Render.groupingItems_eq, Render.groupingItems_eq, hlook]
    split
    · exact t.before _ (t.after _ h)
    · exact h
  have hsub : R (Render.subquery e r) (Render.subquery e' r') := by
    rw [Render.subquery_eq, Render.subquery_eq, hlook]
    split
    · exact t.before _ (t.after _ h)
    · exact h
  cases op with
  | grouping => exact hparens
  | not => exact t.before _ hparens
  | ascending | descending | nullsFirst | nullsLast => exact t.after _ h
  -- What the standard has no form for fails alike on both sides.
  | distinctOn | groupingElement =>
    cases g with
    | standard => exact t.refl _
    | postgres => exact t.before _ (t.after _ h)
  | cube | rollUp | groupingSet =>
    cases g with
    | standard => exact t.refl _
    | postgres => exact t.before _ hitems
  | lateral =>
    cases g with
    | standard => exact t.refl _
    | postgres => exact t.before _ hsub

theorem distinctCase (t : Congruence R) (hl : R l l') (hr : R r r') :
    R (Render.distinctCase l r) (Render.distinctCase l' r') := by
  refine t.before _ (t.append (t.between _ hl hr) (t.before _ ?_))
  exact t.append hl (t.before _ (t.after _ hr))

theorem elementOf (t : Congruence R) (op whenEmpty : String) {e e' : Query}
    (hlook : e'.look = e.look) (hl : R l l') (hr : R r r') :
    R (Render.elementOf op whenEmpty e l r) (Render.elementOf op whenEmpty e' l' r') := by
  have htest := t.append hl (t.before op (t.after ")" hr))
  rw [Render.elementOf_eq, Render.elementOf_eq, hlook]
  split
  · exact t.refl _
  · split
    · exact t.append (t.refl _) htest
    · exact htest

theorem nullTest (t : Congruence R) (nullTest : String) {e e' : Query}
    (hlook : e'.look = e.look) (hl : R l l') (hr : R r r') :
    R (if e.isNull then l ++ text nullTest else r)
      (if e'.isNull then l' ++ text nullTest else r') := by
  rw [Node.isNull_eq, Node.isNull_eq, hlook]
  split
  · exact t.after _ hl
  · exact hr

theorem binary (t : Congruence R) (g : Grammar) (op : BinaryOp) {e e' : Query}
    (hlook : e'.look = e.look) (hl : R l l') (hr : R r r') :
    R (Render.binary g op e l r) (Render.binary g op e' l' r') := by
  cases op with
  | equal | notEqual => exact t.nullTest _ hlook hl (t.between _ hl hr)
  | greater | greaterOrEqual | less | lessOrEqual | aliased | or => exact t.between _ hl hr
  | isIn | notIn => exact t.elementOf _ _ hlook hl hr
  | distinctFrom | notDistinctFrom =>
    cases g with
    | postgres => exact t.between _ hl hr
    | standard => exact t.nullTest _ hlook hl (t.after _ (t.distinctCase hl hr))

/-! ## Trees -/

variable {d : Dialect} {f g : Query → Query}

theorem joins (t : Congruence R) (js : List (Join Caster Value))
    (h : ∀ c ∈ js.flatMap Join.children, R ((f c).render d) ((g c).render d)) :
    R (Render.joins d (js.map (Join.mapChildren f)))
      (Render.joins d (js.map (Join.mapChildren g))) := by
  induction js with
  | nil => exact t.refl _
  | cons j js ih =>
    obtain ⟨kind, relation, on⟩ := j
    simp only [List.flatMap_cons, Join.children, List.mem_append, List.mem_cons] at h
    simp only [List.map_cons, Join.mapChildren, Render.joins, Render.join_eq, Option.map_map]
    have hrelation := h relation (.inl (.inl rfl))
    have hon := t.optional " ON " on fun c hc => h c (.inl (.inr hc))
    have hjs := ih fun c hc => h c (.inr hc)
    exact t.append (t.before _ (t.append hrelation hon)) hjs

theorem select (t : Congruence R) (s : Select Caster Value)
    (h : ∀ c ∈ s.children, R ((f c).render d) ((g c).render d)) :
    R ((Node.select (s.mapChildren f)).render d) ((Node.select (s.mapChildren g)).render d) := by
  rw [Node.render_select, Node.render_select]
  simp only [Select.children, List.mem_append] at h
  simp only [Select.mapChildren, List.map_map, Option.map_map]
  refine t.before _ ?_
  refine t.append (t.optional _ _ fun c hc => h c (by simp only [hc, true_or])) ?_
  refine t.append (t.clause _ _ _ fun c hc => h c (by simp only [hc, true_or, or_true])) ?_
  refine t.append (t.optional _ _ fun c hc => h c (by simp only [hc, true_or, or_true])) ?_
  refine t.append (t.joins _ fun c hc => h c (by simp only [hc, true_or, or_true])) ?_
  refine t.append (t.clause _ _ _ fun c hc => h c (by simp only [hc, true_or, or_true])) ?_
  refine t.append (t.clause _ _ _ fun c hc => h c (by simp only [hc, true_or, or_true])) ?_
  refine t.append (t.clause _ _ _ fun c hc => h c (by simp only [hc, true_or, or_true])) ?_
  refine t.append (t.clause _ _ _ fun c hc => h c (by simp only [hc, true_or, or_true])) ?_
  refine t.append (t.optional _ _ fun c hc => h c (by simp only [hc, true_or, or_true])) ?_
  exact t.optional _ _ fun c hc => h c (by simp only [hc, or_true])

/-- Two changes of the children of a node are rendered alike if each child is. They must give a
child the same look, which decides how a rule spells what is around it. -/
theorem mapChildren (t : Congruence R) (n : Query)
    (hlook : ∀ c ∈ n.children, (g c).look = (f c).look)
    (h : ∀ c ∈ n.children, R ((f c).render d) ((g c).render d)) :
    R ((n.mapChildren f).render d) ((n.mapChildren g).render d) := by
  cases n with
  | sql | star | distinct | column | table | quoted | casted | bind | inList => exact t.refl _
  | list items =>
    simp only [Node.mapChildren, Node.render_list, List.map_map]
    exact t.joined _ items h
  | and operands =>
    simp only [Node.mapChildren, Node.render_and, List.map_map]
    exact t.joined _ operands h
  -- The next two rules look at an operand beside its rendering, so the looks must agree as well.
  | unary op e =>
    have he : e ∈ (Node.unary op e).children := by simp [Node.children]
    simp only [Node.mapChildren, Node.render_unary]
    exact t.unary _ d op (hlook e he) (h e he)
  | binary op l r =>
    have hr : r ∈ (Node.binary op l r).children := by simp [Node.children]
    simp only [Node.mapChildren, Node.render_binary]
    exact t.binary _ op (hlook r hr) (h l (by simp [Node.children])) (h r hr)
  | tableAlias relation name =>
    simp only [Node.mapChildren, Node.render_tableAlias]
    exact t.append (h relation (by simp [Node.children])) (t.refl _)
  | between e low high =>
    simp only [Node.mapChildren, Node.render_between]
    exact t.between _ (h e (by simp [Node.children]))
      (t.between _ (h low (by simp [Node.children])) (h high (by simp [Node.children])))
  | like negated l r escape caseSensitive =>
    simp only [Node.mapChildren, Node.render_like, Option.map_map]
    have hescape := t.optional " ESCAPE " escape fun c hc => h c (by
      simp only [Node.children, List.mem_cons]
      exact .inr (.inr hc))
    exact t.append (t.between _ (h l (by simp [Node.children]))
      (h r (by simp [Node.children]))) hescape
  | regexp negated l r caseSensitive =>
    simp only [Node.mapChildren, Node.render_regexp]
    cases d.grammar with
    | standard => exact t.refl _
    | postgres =>
      exact t.between _ (h l (by simp [Node.children])) (h r (by simp [Node.children]))
  | call name args distinct altName =>
    simp only [Node.mapChildren, Node.render_call, List.map_map]
    exact t.call d name args distinct altName h
  | select s => exact t.select s h

/-- Two changes of the leaves of a tree are rendered alike if they are at every leaf, and give a
leaf the same look. -/
theorem twoMapLeaves (t : Congruence R) (hlook : ∀ n, (g n).look = (f n).look)
    (hleaf : ∀ n : Query, R ((f n).render d) ((g n).render d)) (n : Query) :
    R ((n.mapLeaves f).render d) ((n.mapLeaves g).render d) := by
  induction n using Node.children_induction with
  | step n ih =>
    rcases n.mapLeaves_cases with h | h
    · rw [h, h]
      exact hleaf n
    · rw [h, h]
      exact t.mapChildren n (fun c _ => Node.look_mapLeaves hlook c) ih

/-- A tree whose leaves have been changed is rendered like the tree from before if every leaf is. -/
theorem mapLeaves (t : Congruence R) (hlook : ∀ n, (f n).look = n.look)
    (hleaf : ∀ n : Query, R (n.render d) ((f n).render d)) (n : Query) :
    R (n.render d) ((n.mapLeaves f).render d) := by
  have hboth := t.twoMapLeaves (f := id) hlook hleaf n
  rwa [Node.mapLeaves_id] at hboth

end Congruence

end SqlTree
