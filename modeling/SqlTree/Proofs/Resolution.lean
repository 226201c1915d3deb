-- Column types are looked up as if each had been looked up afresh: what has been looked up before
-- never shows in a query, and the error is that of the first column whose type is unknown.
import SqlTree.Document.Resolve
import SqlTree.Proofs.Children
import SqlTree.Proofs.TypeNames

namespace SqlTree.Document

/-! ## Mentions -/

/-- A column that a document mentions, with the name of its type. -/
structure Mention where
  column : String
  type : String
deriving DecidableEq, Repr

/-- The column that a node mentions by itself. -/
def ownMentions : Document → List Mention
  | .column c => [⟨c.name, c.type⟩]
  | .casted c _ => [⟨c.name, c.type⟩]
  | .bind b => [⟨b.name, b.type⟩]
  | .inList m => [⟨m.column.name, m.column.type⟩]
  | _ => []

/-- The children of a node in the order in which they are resolved: those in the joins of a
statement come before its others. -/
def resolvedChildren : Document → List Document
  | .select s =>
    s.joins.flatMap Join.children ++ (s.distinct.toList ++ (s.projections ++ (s.source.toList ++
      (s.wheres ++ (s.groups ++ (s.havings ++ (s.orders ++ (s.limit.toList ++
        s.offset.toList))))))))
  | n => n.children

theorem resolvedChildren_subset (n : Document) : n.resolvedChildren ⊆ n.children := by
  unfold resolvedChildren
  split
  · intro c hc
    simp only [Node.children, Select.children, List.mem_append] at hc ⊢
    grind
  · exact fun _ h => h

/-- The columns that a document mentions, in the order in which they are resolved. -/
def mentions (doc : Document) : List Mention :=
  doc.gather resolvedChildren resolvedChildren_subset ownMentions

theorem mentions_eq (doc : Document) :
    doc.mentions = doc.ownMentions ++ doc.resolvedChildren.flatMap mentions :=
  Node.gather_eq resolvedChildren resolvedChildren_subset ownMentions doc

/-- The error of a mention whose type is unknown. -/
def Mention.fault? (types : TypeMap) (x : Mention) : Option ResolveError :=
  match types.lookup x.type with
  | .ok _ => none
  | .error cause => some { column := x.column, type := x.type, cause }

/-! ## Casters in the place of names -/

end Document

/-- The column with the caster of its type. -/
def Column.withCaster (caster : String → Caster) (c : Column String) : Column Caster :=
  { table := c.table, name := c.name, type := caster c.type }

namespace Document

mutual
/-- The query with the caster of each type in the place of its name. -/
def withCasters (caster : String → Caster) : Document → Query
  | .sql s => .sql s
  | .star => .star
  | .distinct => .distinct
  | .column c => .column (c.withCaster caster)
  | .table t => .table t
  | .quoted j => .quoted (.ofJson j)
  | .casted c j => .casted (c.withCaster caster) (columnValue (caster c.type) j)
  | .bind b =>
    .bind { name := b.name, value := columnValue (caster b.type) b.value, type := caster b.type }
  | .list items => .list (withCastersOf caster items)
  | .and children => .and (withCastersOf caster children)
  | .unary op e => .unary op (withCasters caster e)
  | .binary op l r => .binary op (withCasters caster l) (withCasters caster r)
  | .tableAlias relation name => .tableAlias (withCasters caster relation) name
  | .between e low high =>
    .between (withCasters caster e) (withCasters caster low) (withCasters caster high)
  | .like negated l r escape caseSensitive =>
    .like negated (withCasters caster l) (withCasters caster r)
      (withCastersOption caster escape) caseSensitive
  | .regexp negated l r caseSensitive =>
    .regexp negated (withCasters caster l) (withCasters caster r) caseSensitive
  | .call name args distinct altName => .call name (withCastersOf caster args) distinct altName
  | .inList m =>
    .inList { column := m.column.withCaster caster
              values := m.values.map (columnValue (caster m.column.type))
              polarity := m.polarity }
  | .select s => .select (withCastersSelect caster s)

def withCastersOf (caster : String → Caster) : List Document → List Query
  | [] => []
  | n :: ns => withCasters caster n :: withCastersOf caster ns

def withCastersOption (caster : String → Caster) : Option Document → Option Query
  | none => none
  | some n => some (withCasters caster n)

def withCastersJoins (caster : String → Caster) :
    List (Join String Json) → List (Join Caster Value)
  | [] => []
  | ⟨kind, relation, on⟩ :: js =>
    ⟨kind, withCasters caster relation, withCastersOption caster on⟩ :: withCastersJoins caster js

def withCastersSelect (caster : String → Caster) : Select String Json → Select Caster Value
  | ⟨distinct, projections, source, joins, wheres, groups, havings, orders, limit, offset⟩ =>
    ⟨withCastersOption caster distinct, withCastersOf caster projections,
      withCastersOption caster source, withCastersJoins caster joins,
      withCastersOf caster wheres, withCastersOf caster groups, withCastersOf caster havings,
      withCastersOf caster orders, withCastersOption caster limit,
      withCastersOption caster offset⟩
end

/-! ## One resolution after another -/

/-- Every caster in a cache is the one that a look-up would give. -/
def Cache.IsSound (types : TypeMap) (cache : Cache) : Prop :=
  ∀ entry ∈ cache, types.lookup entry.1 = .ok entry.2

/-- Whether casters are what look-ups of the mentioned types give. -/
def Agrees (types : TypeMap) (caster : String → Caster) (xs : List Mention) : Prop :=
  ∀ x ∈ xs, types.lookup x.type = .ok (caster x.type)

/-- What a resolution does, whatever has been looked up before: it ends with the first mention whose
type is unknown, and if there is none, it yields the value with the casters of the types. -/
def Resolves {α : Type} (types : TypeMap) (m : Resolution α) (xs : List Mention)
    (value : (String → Caster) → α) : Prop :=
  ∀ cache : Cache, cache.IsSound types →
    (∀ e, xs.findSome? (·.fault? types) = some e → m cache = .error e) ∧
    (∀ caster, Agrees types caster xs →
      ∃ cache' : Cache, m cache = .ok (value caster, cache') ∧ cache'.IsSound types)

theorem fault?_eq_none {types : TypeMap} {x : Mention} :
    x.fault? types = none ↔ ∃ c, types.lookup x.type = .ok c := by
  unfold Mention.fault?
  cases types.lookup x.type <;> simp

theorem fault?_eq_some {types : TypeMap} {x : Mention} {e : ResolveError} :
    x.fault? types = some e ↔
      ∃ cause, types.lookup x.type = .error cause ∧ e = ⟨x.column, x.type, cause⟩ := by
  unfold Mention.fault?
  cases types.lookup x.type <;> simp [eq_comm]

/-- If no mention has a fault, there are casters for all of them. -/
theorem agrees_lookup {types : TypeMap} {xs : List Mention}
    (h : xs.findSome? (·.fault? types) = none) :
    Agrees types (fun type => (types.lookup type).toOption.getD .text) xs := by
  intro x hx
  obtain ⟨c, hc⟩ := fault?_eq_none.mp (List.findSome?_eq_none_iff.mp h x hx)
  simp only [hc, Except.toOption, Option.getD_some]

theorem Agrees.append {types : TypeMap} {caster : String → Caster} {xs ys : List Mention} :
    Agrees types caster (xs ++ ys) ↔ Agrees types caster xs ∧ Agrees types caster ys :=
  List.forall_mem_append

/-- A type that is known gets its caster: if it is remembered, the one that a look-up would give. -/
theorem resolveType_of_known {types : TypeMap} {cache : Cache} {type : String} {c : Caster}
    {column : String} (hcache : cache.IsSound types) (hlook : types.lookup type = .ok c) :
    ∃ cache' : Cache, resolveType types column type cache = .ok (c, cache') ∧
      cache'.IsSound types := by
  unfold resolveType
  cases hfind : cache.find? (·.1 == type) with
  | some entry =>
    have hentry := hcache entry (List.mem_of_find?_eq_some hfind)
    have hname : entry.1 = type := by simpa using List.find?_some hfind
    rw [hname, hlook] at hentry
    refine ⟨cache, ?_, hcache⟩
    rw [Except.ok.inj hentry]
  | none =>
    refine ⟨(type, c) :: cache, by simp only [hlook], ?_⟩
    intro entry hentry
    rcases List.mem_cons.mp hentry with rfl | hentry
    · exact hlook
    · exact hcache entry hentry

theorem resolveType_of_unknown {types : TypeMap} {cache : Cache} {type : String}
    {cause : CastError} {column : String} (hcache : cache.IsSound types)
    (hlook : types.lookup type = .error cause) :
    resolveType types column type cache = .error { column, type, cause } := by
  unfold resolveType
  cases hfind : cache.find? (·.1 == type) with
  | some entry =>
    -- It cannot be remembered.
    have hentry := hcache entry (List.mem_of_find?_eq_some hfind)
    have hname : entry.1 = type := by simpa using List.find?_some hfind
    rw [hname, hlook] at hentry
    cases hentry
  | none => simp only [hlook]

namespace Resolves

variable {α β γ : Type} {types : TypeMap} {xs ys : List Mention}

theorem pure (a : α) : Resolves types (Pure.pure a) [] fun _ => a := by
  intro cache hcache
  refine ⟨fun e he => by simp at he, fun caster _ => ⟨cache, rfl, hcache⟩⟩

theorem bind {m : Resolution α} {v : (String → Caster) → α} {f : α → Resolution β}
    {w : α → (String → Caster) → β} (hm : Resolves types m xs v)
    (hf : ∀ a, Resolves types (f a) ys (w a)) :
    Resolves types (m >>= f) (xs ++ ys) fun caster => w (v caster) caster := by
  intro cache hcache
  obtain ⟨herror, hok⟩ := hm cache hcache
  constructor
  · intro e he
    rw [List.findSome?_append] at he
    cases hx : xs.findSome? (·.fault? types) with
    | some e' =>
      rw [hx] at he
      cases he
      show Except.bind (m cache) _ = _
      rw [herror e hx]
      rfl
    | none =>
      -- All types in the first part are known, so the fault lies in the second.
      obtain ⟨cache', hrun, hcache'⟩ := hok _ (agrees_lookup hx)
      rw [hx] at he
      show Except.bind (m cache) _ = _
      rw [hrun]
      exact (hf _ cache' hcache').1 e he
  · intro caster hcaster
    obtain ⟨hxs, hys⟩ := Agrees.append.mp hcaster
    obtain ⟨cache', hrun, hcache'⟩ := hok caster hxs
    obtain ⟨cache'', hrun', hcache''⟩ := (hf (v caster) cache' hcache').2 caster hys
    refine ⟨cache'', ?_, hcache''⟩
    show Except.bind (m cache) _ = _
    rw [hrun]
    exact hrun'

theorem map {m : Resolution α} {v : (String → Caster) → α} (f : α → β)
    (hm : Resolves types m xs v) :
    Resolves types (m >>= fun a => Pure.pure (f a)) xs fun caster => f (v caster) := by
  have := hm.bind fun a => pure (f a)
  rwa [List.append_nil] at this

theorem type (column type : String) :
    Resolves types (resolveType types column type) [⟨column, type⟩] fun caster => caster type := by
  intro cache hcache
  constructor
  · intro e he
    rw [List.findSome?_singleton] at he
    obtain ⟨cause, hlook, rfl⟩ := fault?_eq_some.mp he
    exact resolveType_of_unknown hcache hlook
  · intro caster hcaster
    exact resolveType_of_known hcache (hcaster ⟨column, type⟩ List.mem_cons_self)

theorem column (c : Column String) :
    Resolves types (resolveColumn types c) [⟨c.name, c.type⟩] c.withCaster :=
  (type c.name c.type).map _

/-! ## Trees -/

end Resolves

/-- A document resolves to the query with casters in the place of names, and ends with the first
mention whose type is unknown. -/
def IsResolved (types : TypeMap) (doc : Document) : Prop :=
  Resolves types (resolve types doc) doc.mentions fun caster => withCasters caster doc

namespace IsResolved

variable {types : TypeMap}

theorem all (ns : List Document) (h : ∀ n ∈ ns, IsResolved types n) :
    Resolves types (resolveAll types ns) (ns.flatMap mentions)
      fun caster => withCastersOf caster ns := by
  induction ns with
  | nil => exact .pure _
  | cons n ns ih =>
    have hn := h n List.mem_cons_self
    have hns := ih fun c hc => h c (List.mem_cons_of_mem n hc)
    exact hn.bind fun q => hns.map (q :: ·)

theorem option (o : Option Document) (h : ∀ n ∈ o.toList, IsResolved types n) :
    Resolves types (resolveOption types o) (o.toList.flatMap mentions)
      fun caster => withCastersOption caster o := by
  cases o with
  | none => exact .pure _
  | some n =>
    rw [Option.toList_some, List.flatMap_singleton]
    exact (h n (by simp)).map some

theorem joins (js : List (Join String Json))
    (h : ∀ n ∈ js.flatMap Join.children, IsResolved types n) :
    Resolves types (resolveJoins types js) ((js.flatMap Join.children).flatMap mentions)
      fun caster => withCastersJoins caster js := by
  induction js with
  | nil => exact .pure _
  | cons j js ih =>
    obtain ⟨kind, relation, on⟩ := j
    rw [List.flatMap_cons, List.forall_mem_append] at h
    obtain ⟨hj, hjs⟩ := h
    obtain ⟨hrelation, hon⟩ := List.forall_mem_cons.mp hj
    have hj : Resolves types (resolveJoin types ⟨kind, relation, on⟩)
        (mentions relation ++ on.toList.flatMap mentions)
        fun caster => ⟨kind, withCasters caster relation, withCastersOption caster on⟩ :=
      hrelation.bind fun q => (option on hon).map (Join.mk kind q)
    rw [List.flatMap_cons, List.flatMap_append]
    exact hj.bind fun j => (ih hjs).map (j :: ·)

theorem select (s : Select String Json)
    (h : ∀ n ∈ resolvedChildren (.select s), IsResolved types n) :
    Resolves types (resolveSelect types s) ((resolvedChildren (.select s)).flatMap mentions)
      fun caster => withCastersSelect caster s := by
  obtain ⟨distinct, projections, source, js, wheres, groups, havings, orders, limit, offset⟩ := s
  simp only [resolvedChildren, List.forall_mem_append] at h
  obtain ⟨hjoins, hdistinct, hprojections, hsource, hwheres, hgroups, hhavings, horders, hlimit,
    hoffset⟩ := h
  simp only [resolvedChildren, List.flatMap_append]
  exact (joins js hjoins).bind fun js => (option distinct hdistinct).bind fun d =>
    (all projections hprojections).bind fun ps => (option source hsource).bind fun src =>
    (all wheres hwheres).bind fun ws => (all groups hgroups).bind fun gs =>
    (all havings hhavings).bind fun hs => (all orders horders).bind fun os =>
    (option limit hlimit).bind fun l =>
    (option offset hoffset).map (Select.mk d ps src js ws gs hs os l)

/-- A node resolves if its children do, one after another in the order of resolution. -/
theorem of_children (n : Document) (ih : ∀ c ∈ n.resolvedChildren, IsResolved types c) :
    IsResolved types n := by
  unfold IsResolved
  rw [mentions_eq]
  cases n with
  | sql s => exact .pure _
  | star => exact .pure _
  | distinct => exact .pure _
  | table t => exact .pure _
  | quoted j => exact .pure _
  | column c => exact (Resolves.column c).map Node.column
  | casted c j => exact (Resolves.column c).map fun c => Node.casted c (columnValue c.type j)
  | bind b =>
    exact (Resolves.type b.name b.type).map fun type =>
      Node.bind { name := b.name, value := columnValue type b.value, type }
  | inList m =>
    exact (Resolves.column m.column).map fun c => Node.inList {
      column := c, values := m.values.map (columnValue c.type), polarity := m.polarity }
  | list items => exact (all items ih).map Node.list
  | and operands => exact (all operands ih).map Node.and
  | call name args distinct altName =>
    exact (all args ih).map fun args => Node.call name args distinct altName
  | select s => exact (select s ih).map Node.select
  | unary op e =>
    have he := ih e (.head _)
    simp only [ownMentions, resolvedChildren, Node.children, List.flatMap_cons, List.flatMap_nil,
      List.append_nil, List.nil_append]
    exact he.map (Node.unary op)
  | tableAlias relation name =>
    have hrelation := ih relation (.head _)
    simp only [ownMentions, resolvedChildren, Node.children, List.flatMap_cons, List.flatMap_nil,
      List.append_nil, List.nil_append]
    exact hrelation.map fun relation => Node.tableAlias relation name
  | binary op l r =>
    have hl := ih l (.head _)
    have hr := ih r (.tail _ (.head _))
    simp only [ownMentions, resolvedChildren, Node.children, List.flatMap_cons, List.flatMap_nil,
      List.append_nil, List.nil_append]
    exact hl.bind fun l => hr.map (Node.binary op l)
  | regexp negated l r caseSensitive =>
    have hl := ih l (.head _)
    have hr := ih r (.tail _ (.head _))
    simp only [ownMentions, resolvedChildren, Node.children, List.flatMap_cons, List.flatMap_nil,
      List.append_nil, List.nil_append]
    exact hl.bind fun l => hr.map fun r => Node.regexp negated l r caseSensitive
  | between e low high =>
    have he := ih e (.head _)
    have hlow := ih low (.tail _ (.head _))
    have hhigh := ih high (.tail _ (.tail _ (.head _)))
    simp only [ownMentions, resolvedChildren, Node.children, List.flatMap_cons, List.flatMap_nil,
      List.append_nil, List.nil_append]
    exact he.bind fun e => hlow.bind fun low => hhigh.map (Node.between e low)
  | like negated l r escape caseSensitive =>
    have hl := ih l (.head _)
    have hr := ih r (.tail _ (.head _))
    have hescape := option escape fun c hc => ih c (.tail _ (.tail _ hc))
    simp only [ownMentions, resolvedChildren, Node.children, List.flatMap_cons, List.nil_append]
    exact hl.bind fun l => hr.bind fun r => hescape.map fun escape =>
      Node.like negated l r escape caseSensitive

theorem document (doc : Document) : IsResolved types doc := by
  induction doc using Node.children_induction with
  | step n ih => exact of_children n fun c hc => ih c (resolvedChildren_subset n hc)

end IsResolved

/-! ## The law -/

/-- The translation of a document with every type looked up afresh. If a type is unknown, the first
mention of one is the error; which caster the translation would have for it does not matter. -/
def translateAfresh (types : TypeMap) (doc : Document) : Except ResolveError Query :=
  match doc.mentions.findSome? (·.fault? types) with
  | some e => .error e
  | none => .ok (doc.withCasters fun type => (types.lookup type).toOption.getD .text)

theorem toQuery_of_fault {types : TypeMap} {doc : Document} {e : ResolveError}
    (h : doc.mentions.findSome? (·.fault? types) = some e) :
    doc.toQuery types = .error (.unresolved e) := by
  have hempty : Cache.IsSound types [] := fun _ h => by cases h
  unfold toQuery
  rw [(IsResolved.document doc [] hempty).1 e h]

theorem toQuery_of_agrees {types : TypeMap} {doc : Document} {caster : String → Caster}
    (h : Agrees types caster doc.mentions) : doc.toQuery types = .ok (doc.withCasters caster) := by
  have hempty : Cache.IsSound types [] := fun _ h => by cases h
  obtain ⟨cache, hrun, -⟩ := (IsResolved.document doc [] hempty).2 caster h
  unfold toQuery
  rw [hrun]

/-- A query is the translation of its document with every type looked up afresh. If all types are
known, it has the casters that look-ups give. Otherwise the error has the name of the first column
whose type is unknown, in the order of resolution, the type as it was given, and its base name. -/
theorem types_are_looked_up_as_if_afresh (types : TypeMap) (doc : Document) :
    doc.toQuery types = (doc.translateAfresh types).mapError .unresolved ∧
    (∀ caster : String → Caster,
      (∀ x ∈ doc.mentions, types.lookup x.type = .ok (caster x.type)) →
        doc.toQuery types = .ok (doc.withCasters caster)) ∧
    (∀ e, doc.toQuery types = .error e ↔
      ∃ before x after base, doc.mentions = before ++ x :: after ∧
        (∀ b ∈ before, ∃ c, types.lookup b.type = .ok c) ∧
        types.lookup x.type = .error (.unknownType base) ∧ TypeMap.IsBaseName x.type base ∧
        e = .unresolved { column := x.column, type := x.type, cause := .unknownType base }) := by
  refine ⟨?_, fun caster h => toQuery_of_agrees h, ?_⟩
  · unfold translateAfresh
    cases hfault : doc.mentions.findSome? (·.fault? types) with
    | some e => exact toQuery_of_fault hfault
    | none => exact toQuery_of_agrees (agrees_lookup hfault)
  · intro e
    constructor
    · intro he
      cases hfault : doc.mentions.findSome? (·.fault? types) with
      | none =>
        rw [toQuery_of_agrees (agrees_lookup hfault)] at he
        cases he
      | some e' =>
        rw [toQuery_of_fault hfault] at he
        cases he
        obtain ⟨before, x, after, hsplit, hx, hbefore⟩ := List.findSome?_eq_some_iff.mp hfault
        obtain ⟨cause, hlook, rfl⟩ := fault?_eq_some.mp hx
        obtain ⟨base, hbase, rfl, -⟩ := TypeMap.lookup_eq_error hlook
        exact ⟨before, x, after, base, hsplit, fun b hb => fault?_eq_none.mp (hbefore b hb), hlook,
          hbase, rfl⟩
    · rintro ⟨before, x, after, base, hsplit, hbefore, hlook, -, rfl⟩
      refine toQuery_of_fault (List.findSome?_eq_some_iff.mpr ⟨before, x, after, hsplit, ?_, ?_⟩)
      · exact fault?_eq_some.mpr ⟨_, hlook, rfl⟩
      · exact fun b hb => fault?_eq_none.mpr (hbefore b hb)

/-- A statement whose types are known, one of them twice, and one with two unknown types, of which
that in its join comes first. -/
theorem types_are_looked_up_as_if_afresh_in_two :
    let types : TypeMap := ⟨[("int", .ofBytes 4)]⟩
    let column (name type : String) : Document := .column ⟨none, name, type⟩
    let doc (a b : String) : Document := .select {
      distinct := none, projections := [column "a" a, column "c" "int"], source := none
      joins := [⟨.cross, column "b" b, none⟩], wheres := [], groups := [], havings := []
      orders := [], limit := none, offset := none }
    (doc "INT[]" "int").toQuery types = .ok ((doc "INT[]" "int").withCasters fun type =>
      if type = "int" then .ofBytes 4 else .array (.ofBytes 4) ',') ∧
    (doc "line" " Point []").toQuery types =
      .error (.unresolved ⟨"b", " Point []", .unknownType "point"⟩) := by
  intro types column doc
  have hmentions (a b : String) :
      (doc a b).mentions = [⟨"b", b⟩, ⟨"a", a⟩, ⟨"c", "int"⟩] := by
    simp [doc, column, mentions_eq, ownMentions, resolvedChildren, Join.children, Node.children]
  have hbase : TypeMap.IsBaseName " Point []" "point" :=
    TypeMap.isBaseName_splitSuffixes " Point []"
  obtain ⟨-, hknown, -⟩ := types_are_looked_up_as_if_afresh types (doc "INT[]" "int")
  obtain ⟨-, -, hunknown⟩ := types_are_looked_up_as_if_afresh types (doc "line" " Point []")
  constructor
  · refine hknown _ ?_
    rw [hmentions]
    simp only [List.forall_mem_cons]
    exact ⟨rfl, rfl, rfl, by simp⟩
  · exact (hunknown _).mpr ⟨[], _, _, "point", hmentions _ _, by simp, rfl, hbase, rfl⟩

end SqlTree.Document
