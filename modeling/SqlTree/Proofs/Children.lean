-- The children of a node, and what follows from the children up. A law of trees is proved for a
-- node from the same law for its children, and what a tree holds is gathered node by node.
import SqlTree.Query.Node

namespace SqlTree

variable {τ ν α : Type}

/-! ## Children -/

/-- The relation of a join, then its condition. -/
def Join.children (j : Join τ ν) : List (Node τ ν) := j.relation :: j.on.toList

/-- The trees in a statement, clause by clause. -/
def Select.children (s : Select τ ν) : List (Node τ ν) :=
  s.distinct.toList ++ (s.projections ++ (s.source.toList ++ (s.joins.flatMap Join.children ++
    (s.wheres ++ (s.groups ++ (s.havings ++ (s.orders ++ (s.limit.toList ++ s.offset.toList))))))))

namespace Node

/-- The trees directly under a node, in the order in which the node has them. -/
def children : Node τ ν → List (Node τ ν)
  | list items => items
  | and operands => operands
  | unary _ operand => [operand]
  | binary _ left right => [left, right]
  | tableAlias relation _ => [relation]
  | between operand low high => [operand, low, high]
  | like _ left right escape _ => left :: right :: escape.toList
  | regexp _ left right _ => [left, right]
  | call _ args _ _ => args
  | select s => s.children
  | _ => []

theorem sizeOf_lt_of_mem_option {c : Node τ ν} {o : Option (Node τ ν)} (h : c ∈ o.toList) :
    sizeOf c < sizeOf o := by
  rw [Option.mem_toList] at h
  subst h
  simp

theorem sizeOf_lt_of_mem_joins {c : Node τ ν} {js : List (Join τ ν)}
    (h : c ∈ js.flatMap Join.children) : sizeOf c < sizeOf js := by
  obtain ⟨⟨kind, relation, on⟩, hj, hc⟩ := List.mem_flatMap.mp h
  have hlt := List.sizeOf_lt_of_mem hj
  rw [Join.mk.sizeOf_spec] at hlt
  rcases List.mem_cons.mp hc with rfl | hon
  · omega
  · have := sizeOf_lt_of_mem_option (show c ∈ on.toList from hon)
    omega

theorem sizeOf_lt_of_mem_select {c : Node τ ν} {s : Select τ ν} (h : c ∈ s.children) :
    sizeOf c < sizeOf s := by
  obtain ⟨distinct, projections, source, js, wheres, groups, havings, orders, limit, offset⟩ := s
  rw [Select.mk.sizeOf_spec]
  simp only [Select.children, List.mem_append] at h
  rcases h with h | h | h | h | h | h | h | h | h | h
  · have := sizeOf_lt_of_mem_option h; omega
  · have := List.sizeOf_lt_of_mem h; omega
  · have := sizeOf_lt_of_mem_option h; omega
  · have := sizeOf_lt_of_mem_joins h; omega
  · have := List.sizeOf_lt_of_mem h; omega
  · have := List.sizeOf_lt_of_mem h; omega
  · have := List.sizeOf_lt_of_mem h; omega
  · have := List.sizeOf_lt_of_mem h; omega
  · have := sizeOf_lt_of_mem_option h; omega
  · have := sizeOf_lt_of_mem_option h; omega

/-- A child is smaller than its node. -/
theorem sizeOf_child_lt {c n : Node τ ν} (h : c ∈ n.children) : sizeOf c < sizeOf n := by
  cases n with
  | list items =>
    have := List.sizeOf_lt_of_mem (show c ∈ items from h)
    rw [list.sizeOf_spec]
    omega
  | and operands =>
    have := List.sizeOf_lt_of_mem (show c ∈ operands from h)
    rw [and.sizeOf_spec]
    omega
  | call name args distinct altName =>
    have := List.sizeOf_lt_of_mem (show c ∈ args from h)
    rw [call.sizeOf_spec]
    omega
  | select s =>
    have := sizeOf_lt_of_mem_select (show c ∈ s.children from h)
    rw [select.sizeOf_spec]
    omega
  | like negated left right escape caseSensitive =>
    rw [like.sizeOf_spec]
    simp only [children, List.mem_cons] at h
    rcases h with rfl | rfl | h
    · omega
    · omega
    · have := sizeOf_lt_of_mem_option h
      omega
  | unary op operand =>
    rw [unary.sizeOf_spec]
    simp only [children, List.mem_singleton] at h
    subst h
    omega
  | tableAlias relation name =>
    rw [tableAlias.sizeOf_spec]
    simp only [children, List.mem_singleton] at h
    subst h
    omega
  | binary op left right =>
    rw [binary.sizeOf_spec]
    simp only [children, List.mem_cons, List.not_mem_nil, or_false] at h
    rcases h with rfl | rfl <;> omega
  | regexp negated left right caseSensitive =>
    rw [regexp.sizeOf_spec]
    simp only [children, List.mem_cons, List.not_mem_nil, or_false] at h
    rcases h with rfl | rfl <;> omega
  | between operand low high =>
    rw [between.sizeOf_spec]
    simp only [children, List.mem_cons, List.not_mem_nil, or_false] at h
    rcases h with rfl | rfl | rfl <;> omega
  | _ => simp [children] at h

/-- What holds of a node whenever it holds of its children holds of every tree. -/
@[elab_as_elim]
theorem children_induction {P : Node τ ν → Prop}
    (step : ∀ n, (∀ c ∈ n.children, P c) → P n) (n : Node τ ν) : P n :=
  step n fun c _ => children_induction step c
termination_by sizeOf n
decreasing_by exact sizeOf_child_lt ‹_›

/-! ## Gathering -/

/-- What is found at the nodes of a tree: first at the node itself, then under each of the children
that are visited from it, in the order of the visits. -/
def gather (visited : Node τ ν → List (Node τ ν)) (sound : ∀ n, visited n ⊆ n.children)
    (own : Node τ ν → List α) (n : Node τ ν) : List α :=
  own n ++ (visited n).attach.flatMap fun c => gather visited sound own c.1
termination_by sizeOf n
decreasing_by exact sizeOf_child_lt (sound n c.2)

theorem gather_eq (visited : Node τ ν → List (Node τ ν)) (sound : ∀ n, visited n ⊆ n.children)
    (own : Node τ ν → List α) (n : Node τ ν) :
    n.gather visited sound own = own n ++ (visited n).flatMap (gather visited sound own) := by
  rw [gather, List.flatMap_subtype (fun _ _ => rfl), List.unattach_attach]

end Node

end SqlTree
