-- What a rendering takes from a tree. Every rule renders the children it visits one after another
-- with texts around them, so what a rendering has is gathered from the nodes that are visited.
import SqlTree.Proofs.Children
import SqlTree.Proofs.Rendering

namespace SqlTree

/-! ## Visits -/

/-- The operators that every grammar has. -/
def UnaryOp.isStandard : UnaryOp → Bool
  | grouping | not | ascending | descending | nullsFirst | nullsLast => true
  | distinctOn | groupingElement | cube | rollUp | groupingSet | lateral => false

/-- The tests against the elements of a list or a subquery. -/
def BinaryOp.isElementTest : BinaryOp → Bool
  | isIn | notIn => true
  | _ => false

/-- The comparisons for which a null equals a null. -/
def BinaryOp.isDistinctTest : BinaryOp → Bool
  | distinctFrom | notDistinctFrom => true
  | _ => false

namespace Node

def isEmptyList : Query → Bool
  | .list [] => true
  | _ => false

/-- The right operands that a rule may leave out: a literal null and the empty list. -/
def isOmitted (n : Query) : Bool := n.isNull || n.isEmptyList

theorem isOmitted_of_isNull {n : Query} (h : n.isNull = true) : n.isOmitted = true := by
  simp [isOmitted, h]

/-- The children of a node as a grammar visits them. They are its children in order, with two
exceptions. What is tested against an empty list is not visited, and the standard's way to say
`distinct from` visits both operands twice, unless the right one is a literal null. -/
def visited (g : Grammar) : Query → List Query
  | .binary op l r =>
    if op.isElementTest && r.isEmptyList then [r]
    else if op.isDistinctTest && g == .standard && !r.isNull then [l, r, l, r]
    else [l, r]
  | n => n.children

theorem visited_subset (g : Grammar) (n : Query) : visited g n ⊆ n.children := by
  unfold visited
  split
  · split
    · simp [children]
    · split <;> simp [children]
  · exact fun _ h => h

/-- What is found at the nodes of a tree that a grammar visits, in the order of the visits. -/
def gatherVisited {α : Type} (g : Grammar) (own : Query → List α) (n : Query) : List α :=
  n.gather (visited g) (visited_subset g) own

theorem gatherVisited_eq {α : Type} (g : Grammar) (own : Query → List α) (n : Query) :
    n.gatherVisited g own = own n ++ (n.visited g).flatMap (gatherVisited g own) :=
  gather_eq (visited g) (visited_subset g) own n

/-- Whether a grammar has a rule for a node. -/
def isSupported (g : Grammar) : Query → Bool
  | .unary op _ => g == .postgres || op.isStandard
  | .regexp _ _ _ _ => g == .postgres
  | _ => true

/-- Whether a node is rendered as nothing but its children with fixed texts around them. -/
def isQuiet (g : Grammar) : Query → Bool
  | .casted _ _ => false
  | .bind _ => false
  | .inList _ => false
  | .binary op _ (.list (_ :: _)) => !op.isElementTest
  | n => n.isSupported g

/-- A node without a rule is refused. -/
theorem render_of_unsupported {d : Dialect} {n : Query} (h : n.isSupported d.grammar = false) :
    n.render d = Render.unsupported d n.kind := by
  cases n with
  | unary op e =>
    simp only [isSupported, Bool.or_eq_false_iff, beq_eq_false_iff_ne] at h
    cases hg : d.grammar with
    | postgres => exact absurd hg h.1
    | standard =>
      rw [render_unary, hg]
      cases op with
      | grouping | not | ascending | descending | nullsFirst | nullsLast =>
        exact absurd h.2 (by decide)
      | distinctOn | groupingElement | cube | rollUp | groupingSet | lateral => rfl
  | regexp negated l r caseSensitive =>
    simp only [isSupported, beq_eq_false_iff_ne] at h
    cases hg : d.grammar with
    | postgres => exact absurd hg h
    | standard =>
      rw [render_regexp, hg]
      rfl
  | _ => simp [isSupported] at h

theorem gatherVisited_leaf {α : Type} {g : Grammar} (own : Query → List α) {n : Query}
    (h : n.visited g = []) : n.gatherVisited g own = own n := by
  rw [gatherVisited_eq, h]
  simp

theorem isQuiet_binary {op : BinaryOp} (g : Grammar) (l r : Query)
    (h : op.isElementTest = false ∨ ∀ items, r ≠ .list items) :
    (binary op l r).isQuiet g = true := by
  unfold isQuiet
  split
  · simp_all
  · simp_all
  · simp_all
  · rename_i heq
    cases heq
    simpa using h
  · rfl

end Node

/-! ## Tallies -/

/-- A relation between renderings and lists that adds up: a text stands for nothing, and one
rendering after another for both their lists. -/
structure AddsUp {α : Type} (P : Rendering → List α → Prop) : Prop where
  empty : P .empty []
  text : ∀ s, P (.text s) []
  append : ∀ {a b x y}, P a x → P b y → P (a ++ b) (x ++ y)

/-- A relation that adds up and goes along with a dialect: a node that is not quiet stands for what
is its own, besides what its children stand for. -/
structure Tally {α : Type} (d : Dialect) (own : Query → List α)
    (P : Rendering → List α → Prop) : Prop extends AddsUp P where
  bind : ∀ b, P (.bind b) (own (.bind b))
  casted : ∀ c v, P (.literal (c.type.serialize v)) (own (.casted c v))
  inList : ∀ m, P (Render.inList d.grammar d m) (own (.inList m))
  elements : ∀ op l e es, op.isElementTest = true →
    P .varying (own (.binary op l (.list (e :: es))))
  unsupported : ∀ n : Query, n.isSupported d.grammar = false →
    ∀ x, P (Render.unsupported d n.kind) (own n ++ x)
  quiet : ∀ n : Query, n.isQuiet d.grammar = true → own n = []
  null : ∀ n : Query, n.isNull = true → own n = []

namespace AddsUp

open Rendering

variable {α : Type} {d : Dialect} {P : Rendering → List α → Prop}

theorem before (t : AddsUp P) (s : String) {r : Rendering} {x : List α} (h : P r x) :
    P (.text s ++ r) x := by
  have := t.append (t.text s) h
  rwa [List.nil_append] at this

theorem after (t : AddsUp P) (s : String) {r : Rendering} {x : List α} (h : P r x) :
    P (r ++ .text s) x := by
  have := t.append h (t.text s)
  rwa [List.append_nil] at this

theorem between (t : AddsUp P) (op : String) {l r : Rendering} {x y : List α} (hl : P l x)
    (hr : P r y) : P (.between op l r) (x ++ y) :=
  t.append hl (t.before op hr)

theorem optional (t : AddsUp P) (lead : String) {f : Query → List α} (o : Option Query)
    (h : ∀ c ∈ o.toList, P (c.render d) (f c)) :
    P (.optional lead (o.map (·.render d))) (o.toList.flatMap f) := by
  cases o with
  | none => exact t.empty
  | some n =>
    have := t.before lead (h n (by simp))
    simpa [Rendering.optional] using this

theorem joined (t : AddsUp P) (separator : String) {f : Query → List α} (ns : List Query)
    (h : ∀ c ∈ ns, P (c.render d) (f c)) :
    P (.joined separator (ns.map (·.render d))) (ns.flatMap f) := by
  induction ns with
  | nil => exact t.empty
  | cons n rest ih =>
    have hn := h n (by simp)
    have hrest := ih fun c hc => h c (by simp [hc])
    cases rest with
    | nil => simpa [Rendering.joined] using hn
    | cons m rest => exact t.append hn (t.before separator hrest)

theorem clause (t : AddsUp P) (lead separator : String) {f : Query → List α}
    (ns : List Query) (h : ∀ c ∈ ns, P (c.render d) (f c)) :
    P (.clause lead separator (ns.map (·.render d))) (ns.flatMap f) := by
  cases ns with
  | nil => exact t.empty
  | cons n rest => exact t.before lead (t.joined separator (n :: rest) h)

theorem joins (t : AddsUp P) {f : Query → List α} (js : List (Join Caster Value))
    (h : ∀ c ∈ js.flatMap Join.children, P (c.render d) (f c)) :
    P (Render.joins d js) ((js.flatMap Join.children).flatMap f) := by
  induction js with
  | nil => exact t.empty
  | cons j js ih =>
    rw [Render.joins, Render.join_eq, List.flatMap_cons, List.flatMap_append]
    have hrelation := h j.relation (by simp [Join.children])
    have hon := t.optional " ON " j.on fun c hc => h c (by
      simp only [List.flatMap_cons, Join.children, List.mem_append, List.mem_cons]
      exact .inl (.inr hc))
    have hjs := ih fun c hc => h c (by
      rw [List.flatMap_cons]
      exact List.mem_append_right _ hc)
    refine t.append (t.before _ ?_) hjs
    simpa [Join.children] using t.append hrelation hon

theorem select (t : AddsUp P) {f : Query → List α} (s : Select Caster Value)
    (h : ∀ c ∈ s.children, P (c.render d) (f c)) :
    P ((Node.select s).render d) (s.children.flatMap f) := by
  rw [Node.render_select]
  simp only [Select.children, List.mem_append] at h
  simp only [Select.children, List.flatMap_append]
  refine t.before _ ?_
  refine t.append (t.optional _ _ fun c hc => h c (by simp only [hc, true_or])) ?_
  refine t.append (t.clause _ _ _ fun c hc => h c (by simp only [hc, true_or, or_true])) ?_
  refine t.append (t.optional _ _ fun c hc => h c (by simp only [hc, true_or, or_true])) ?_
  refine t.append (t.joins _ fun c hc => h c (by simp only [hc, true_or, or_true])) ?_
  refine t.append (t.clause _ _ _ fun c hc => h c (by simp only [hc, true_or, or_true])) ?_
  refine t.append (t.clause _ _ _ fun c hc => h c (by simp only [hc, true_or, or_true])) ?_
  refine t.append (t.clause _ _ _ fun c hc => h c (by simp only [hc, true_or, or_true])) ?_
  refine t.append (t.clause _ _ _ fun c hc => h c (by simp only [hc, true_or, or_true])) ?_
  refine t.append (t.optional _ _ fun c hc => h c (by simp only [hc, true_or, or_true])) ?_
  exact t.optional _ _ fun c hc => h c (by simp only [hc, or_true])

theorem column (t : AddsUp P) (c : Column Caster) : P (Render.column d c) [] := by
  unfold Render.column
  split
  · exact t.text _
  · exact t.before _ (t.before _ (t.text _))

theorem table (t : AddsUp P) (r : Table) : P (Render.table d r) [] := by
  unfold Render.table
  cases r.altName with
  | none => exact t.before _ t.empty
  | some name => exact t.before _ (t.before _ (t.text _))

theorem call (t : AddsUp P) (name : String) (args : List Query) (distinct : Bool)
    (altName : Option String) {f : Query → List α} (h : ∀ c ∈ args, P (c.render d) (f c)) :
    P (Render.call d name (args.map (·.render d)) distinct altName) (args.flatMap f) := by
  have hname : P (.optional " AS " (altName.map fun a => .text (d.quoteColumnName a))) [] := by
    cases altName with
    | none => exact t.empty
    | some a => exact t.before _ (t.text _)
  have hdistinct : P (if distinct then .text "DISTINCT " else .empty) [] := by
    cases distinct with
    | false => exact t.empty
    | true => exact t.text _
  have hargs := t.append (t.joined ", " args h) (t.before ")" hname)
  rw [List.append_nil] at hargs
  exact t.before _ (t.before _ (t.append hdistinct hargs))

theorem unary (t : AddsUp P) (op : UnaryOp) (e : Query) {r : Rendering} {x : List α}
    (hs : (Node.unary op e : Query).isSupported d.grammar = true) (h : P r x) :
    P (Render.unary d.grammar d op e r) x := by
  have hparens : P (Render.parenthesized e r) x := by
    unfold Render.parenthesized
    split
    · exact h
    · exact t.before _ (t.after _ h)
  have hitems : P (Render.groupingItems e r) x := by
    unfold Render.groupingItems
    split
    · exact t.before _ (t.after _ h)
    · exact h
  have hsub : P (Render.subquery e r) x := by
    unfold Render.subquery
    split
    · exact t.before _ (t.after _ h)
    · exact h
  have hg : op.isStandard = false → d.grammar = .postgres := by
    intro hop
    simpa [Node.isSupported, hop] using hs
  cases op with
  | grouping => exact hparens
  | not => exact t.before _ hparens
  | ascending | descending | nullsFirst | nullsLast => exact t.after _ h
  | distinctOn | groupingElement =>
    rw [hg rfl]
    exact t.before _ (t.after _ h)
  | cube | rollUp | groupingSet =>
    rw [hg rfl]
    exact t.before _ hitems
  | lateral =>
    rw [hg rfl]
    exact t.before _ hsub

/-- The standard's way to say `distinct from`. -/
theorem distinctCase (t : AddsUp P) (result : String) {l r : Rendering} {x y : List α}
    (hl : P l x) (hr : P r y) :
    P (Render.distinctCase l r ++ .text result) (x ++ (y ++ (x ++ y))) := by
  refine t.after _ (t.before _ ?_)
  rw [← List.append_assoc]
  refine t.append (t.between _ hl hr) (t.before _ ?_)
  exact t.append hl (t.before _ (t.after _ hr))

end AddsUp

namespace Tally

variable {α : Type} {d : Dialect} {own : Query → List α} {P : Rendering → List α → Prop}

section

variable {f : Query → List α}

theorem elementOf (t : Tally d own P) (hf : ∀ c, c.isOmitted = true → f c = []) {op : BinaryOp}
    (hop : op.isElementTest = true) (sign whenEmpty : String) (l r : Query)
    (hl : P (l.render d) (f l)) (hr : P (r.render d) (f r)) :
    P (Render.elementOf sign whenEmpty r (l.render d) (r.render d))
      (own (.binary op l r) ++ ((Node.binary op l r).visited d.grammar).flatMap f) := by
  have htest : P (l.render d ++ (.text sign ++ (r.render d ++ .text ")"))) ([l, r].flatMap f) := by
    simpa using t.append hl (t.before sign (t.after ")" hr))
  have hdistinct : op.isDistinctTest = false := by
    cases op <;> simp_all [BinaryOp.isElementTest, BinaryOp.isDistinctTest]
  rcases Render.elementOf_cases sign whenEmpty r (l.render d) (r.render d) with
    ⟨rfl, heq⟩ | ⟨e, es, rfl, heq⟩ | ⟨hnot, heq⟩
  · rw [heq, t.quiet (.binary op l (.list [])) rfl]
    simpa [Node.visited, hop, Node.isEmptyList, hf (.list []) rfl] using t.text whenEmpty
  · rw [heq]
    have hvisited : Node.visited d.grammar (.binary op l (.list (e :: es))) =
        [l, .list (e :: es)] := by
      simp [Node.visited, hdistinct, Node.isEmptyList]
    rw [hvisited]
    exact t.append (t.elements op l e es hop) htest
  · have hempty : r.isEmptyList = false := by
      unfold Node.isEmptyList
      split
      · exact absurd rfl (hnot [])
      · rfl
    rw [heq, t.quiet _ (Node.isQuiet_binary _ l r (.inr hnot))]
    simpa [Node.visited, hdistinct, hempty] using htest

theorem nullAware (t : Tally d own P) (hf : ∀ c, c.isOmitted = true → f c = [])
    (sign nullTest : String) (l r : Query) (hl : P (l.render d) (f l))
    (hr : P (r.render d) (f r)) :
    P (Render.nullAware sign nullTest r (l.render d) (r.render d)) ([l, r].flatMap f) := by
  unfold Render.nullAware
  split
  · rename_i hnull
    simpa [hf r (Node.isOmitted_of_isNull hnull)] using t.after nullTest hl
  · simpa using t.between sign hl hr

theorem binary (t : Tally d own P) (hf : ∀ c, c.isOmitted = true → f c = []) (op : BinaryOp)
    (l r : Query) (hl : P (l.render d) (f l)) (hr : P (r.render d) (f r)) :
    P ((Node.binary op l r).render d)
      (own (.binary op l r) ++ ((Node.binary op l r).visited d.grammar).flatMap f) := by
  have hboth (sign : String) :
      P (.between sign (l.render d) (r.render d)) ([l, r].flatMap f) := by
    simpa using t.between sign hl hr
  have hown : op.isElementTest = false → own (.binary op l r) = [] :=
    fun h => t.quiet _ (Node.isQuiet_binary _ l r (.inl h))
  rw [Node.render_binary]
  cases op with
  | isIn | notIn => exact t.elementOf hf rfl _ _ l r hl hr
  | equal | notEqual =>
    rw [hown rfl]
    exact t.nullAware hf _ _ l r hl hr
  | distinctFrom | notDistinctFrom =>
    rw [hown rfl]
    cases hg : d.grammar with
    | postgres => exact hboth _
    | standard =>
      cases hnull : r.isNull with
      | true =>
        have hr := hf r (Node.isOmitted_of_isNull hnull)
        simpa [Render.binary, Node.visited, BinaryOp.isElementTest, hnull, hr] using t.after _ hl
      | false =>
        simpa [Render.binary, Node.visited, BinaryOp.isElementTest, BinaryOp.isDistinctTest,
          hnull] using t.distinctCase _ hl hr
  | _ =>
    rw [hown rfl]
    exact hboth _

/-- What a node stands for is what is its own, and what its children stand for as they are visited.
A child that may be left out has to stand for nothing. -/
theorem of_children (t : Tally d own P) (hf : ∀ c, c.isOmitted = true → f c = []) (n : Query)
    (h : ∀ c ∈ n.children, P (c.render d) (f c)) :
    P (n.render d) (own n ++ (n.visited d.grammar).flatMap f) := by
  by_cases hs : n.isSupported d.grammar = false
  · rw [Node.render_of_unsupported hs]
    exact t.unsupported n hs _
  rw [Bool.not_eq_false] at hs
  have hleaf {n : Query} (hn : n.visited d.grammar = []) :
      own n ++ (n.visited d.grammar).flatMap f = own n := by
    simp [hn]
  cases n with
  | sql s => rw [t.quiet _ rfl]; exact t.text s
  | star => rw [t.quiet _ rfl]; exact t.text _
  | distinct => rw [t.quiet _ rfl]; exact t.text _
  | column c => rw [t.quiet _ rfl]; exact t.column c
  | table x => rw [t.quiet _ rfl]; exact t.table x
  | quoted v => rw [t.quiet _ rfl]; exact t.text _
  | casted c v => rw [hleaf rfl]; exact t.casted c v
  | bind b => rw [hleaf rfl]; exact t.bind b
  | inList m => rw [hleaf rfl]; exact t.inList m
  | list items => rw [t.quiet _ rfl, Node.render_list]; exact t.joined _ items h
  | and operands => rw [t.quiet _ rfl, Node.render_and]; exact t.joined _ operands h
  | unary op e =>
    rw [t.quiet (.unary op e) hs, Node.render_unary]
    simpa [Node.visited, Node.children] using t.unary op e hs (h e (by simp [Node.children]))
  | binary op l r =>
    exact t.binary hf op l r (h l (by simp [Node.children])) (h r (by simp [Node.children]))
  | tableAlias relation name =>
    rw [t.quiet _ rfl, Node.render_tableAlias]
    simpa [Node.visited, Node.children] using
      t.append (h relation (by simp [Node.children])) (t.before " " (t.text _))
  | between e low high =>
    rw [t.quiet _ rfl, Node.render_between]
    simpa [Node.visited, Node.children] using
      t.between " BETWEEN " (h e (by simp [Node.children]))
        (t.between " AND " (h low (by simp [Node.children])) (h high (by simp [Node.children])))
  | like negated l r escape caseSensitive =>
    rw [t.quiet _ rfl, Node.render_like]
    have hescape := t.optional " ESCAPE " escape fun c hc => h c (by
      simp only [Node.children, List.mem_cons]
      exact .inr (.inr hc))
    simpa [Node.visited, Node.children, Render.pattern] using
      t.append (t.between _ (h l (by simp [Node.children])) (h r (by simp [Node.children])))
        hescape
  | regexp negated l r caseSensitive =>
    have hg : d.grammar = .postgres := by simpa [Node.isSupported] using hs
    rw [t.quiet (.regexp negated l r caseSensitive) hs, Node.render_regexp, hg]
    simpa [Node.visited, Node.children, Render.regexp, hg] using
      t.between (Render.regexpOperator negated caseSensitive) (h l (by simp [Node.children]))
        (h r (by simp [Node.children]))
  | call name args distinct altName =>
    rw [t.quiet _ rfl, Node.render_call]
    exact t.call name args distinct altName h
  | select s => rw [t.quiet _ rfl]; exact t.select s h

end

theorem gather_omitted (t : Tally d own P) {n : Query} (h : n.isOmitted = true) :
    n.gatherVisited d.grammar own = [] := by
  unfold Node.isOmitted at h
  rcases Bool.or_eq_true_iff.mp h with hnull | hempty
  · have hvisited : n.visited d.grammar = [] := by
      cases n <;> simp_all [Node.isNull, Node.visited, Node.children]
    rw [Node.gatherVisited_leaf own hvisited]
    exact t.null n hnull
  · unfold Node.isEmptyList at hempty
    split at hempty
    · rw [Node.gatherVisited_leaf own rfl]
      exact t.quiet _ rfl
    · cases hempty

/-- A tally of a dialect holds between every query's rendering and what is gathered from the nodes
that are visited. -/
theorem render (t : Tally d own P) (n : Query) :
    P (n.render d) (n.gatherVisited d.grammar own) := by
  induction n using Node.children_induction with
  | step n ih =>
    rw [Node.gatherVisited_eq]
    exact t.of_children (fun _ => t.gather_omitted) n ih

end Tally

/-! ## The rendered part -/

namespace Node

/-- The children of a node without what is tested against an empty list. -/
def renderedChildren : Query → List Query
  | .binary op l r => if op.isElementTest && r.isEmptyList then [r] else [l, r]
  | n => n.children

theorem renderedChildren_subset (n : Query) : n.renderedChildren ⊆ n.children := by
  unfold renderedChildren
  split
  · split <;> simp [children]
  · exact fun _ h => h

/-- The nodes of a tree that are rendered, the tree itself first. -/
def renderedNodes (n : Query) : List Query :=
  n.gather renderedChildren renderedChildren_subset fun c => [c]

theorem renderedNodes_eq (n : Query) :
    n.renderedNodes = n :: n.renderedChildren.flatMap renderedNodes :=
  gather_eq renderedChildren renderedChildren_subset _ n

/-- A grammar visits the children that are rendered, some of them perhaps twice. -/
theorem mem_visited {g : Grammar} {n c : Query} :
    c ∈ n.visited g ↔ c ∈ n.renderedChildren := by
  cases n with
  | binary op l r =>
    simp only [visited, renderedChildren]
    split
    · exact Iff.rfl
    · split
      · simp only [List.mem_cons, List.not_mem_nil, or_false]
        grind
      · exact Iff.rfl
  | _ => exact Iff.rfl

/-- What a grammar finds in a tree is what is found at the rendered nodes. -/
theorem mem_gatherVisited {α : Type} {g : Grammar} {own : Query → List α} {n : Query} {x : α} :
    x ∈ n.gatherVisited g own ↔ ∃ c ∈ n.renderedNodes, x ∈ own c := by
  induction n using children_induction with
  | step n ih =>
    have hchildren : x ∈ (n.visited g).flatMap (gatherVisited g own) ↔
        ∃ c ∈ n.renderedChildren.flatMap renderedNodes, x ∈ own c := by
      simp only [List.mem_flatMap, mem_visited]
      constructor
      · rintro ⟨c, hc, hx⟩
        obtain ⟨y, hy, hxy⟩ := (ih c (renderedChildren_subset n hc)).mp hx
        exact ⟨y, ⟨c, hc, hy⟩, hxy⟩
      · rintro ⟨y, ⟨c, hc, hy⟩, hxy⟩
        exact ⟨c, hc, (ih c (renderedChildren_subset n hc)).mpr ⟨y, hy, hxy⟩⟩
    rw [gatherVisited_eq, List.mem_append, hchildren, renderedNodes_eq]
    simp only [List.mem_cons, exists_eq_or_imp]

end Node

end SqlTree
