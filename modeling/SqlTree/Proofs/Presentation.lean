-- The ways to write a document. Every text of a document is read as the document, so that all its
-- texts give one query or fail alike.
import SqlTree.Document.Resolve
import SqlTree.Proofs.Children
import SqlTree.Proofs.JsonText
import SqlTree.Proofs.Records

namespace SqlTree

/-! ## Names -/

def UnaryOp.tag : UnaryOp → String
  | grouping => "grouping"
  | not => "not"
  | ascending => "ascending"
  | descending => "descending"
  | nullsFirst => "nulls_first"
  | nullsLast => "nulls_last"
  | distinctOn => "distinct_on"
  | groupingElement => "grouping_element"
  | cube => "cube"
  | rollUp => "roll_up"
  | groupingSet => "grouping_set"
  | lateral => "lateral"

/-- The tag of a node with this operator. -/
def BinaryOp.tag : BinaryOp → String
  | equal => "equality"
  | notEqual => "not_equal"
  | greater => "greater_than"
  | greaterOrEqual => "greater_than_or_equal"
  | less => "less_than"
  | lessOrEqual => "less_than_or_equal"
  | distinctFrom => "is_distinct_from"
  | notDistinctFrom => "is_not_distinct_from"
  | aliased => "as"
  | or => "or"
  | isIn => "in"
  | notIn => "not_in"

def likeTag (negated : Bool) : String := if negated then "does_not_match" else "matches"

def regexpTag (negated : Bool) : String := if negated then "not_regexp" else "regexp"

def JoinKind.name : JoinKind → String
  | inner => "inner"
  | leftOuter => "left_outer"
  | cross => "cross"

namespace Document

/-! ## Ways to write a document -/

/-- A node is a record with a tag before its parts. -/
def IsNode (tag : String) (parts : List Part) : Json → Prop :=
  IsRecord (.text "node" tag :: parts)

def partsOfColumn (table : Option String) (name type : String) : List Part :=
  [.textOrNull "table" table, .text "name" name, .text "type" type]

def Part.column (name : String) (c : Column String) : Part :=
  .required name (IsRecord (partsOfColumn c.table c.name c.type))

/-- An array with such items. -/
def IsArray (ShowsItems : List Json → Prop) (j : Json) : Prop :=
  ∃ items, ShowsItems items ∧ j = .array items

mutual
/-- The ways to write a document, with each node, column and join in a form of its own. -/
def IsShown : Document → Json → Prop
  | .sql s => IsNode "sql" [.text "sql" s]
  | .star => IsNode "star" []
  | .distinct => IsNode "distinct" []
  | .column c => IsNode "attribute" (partsOfColumn c.table c.name c.type)
  | .table t => IsNode "table" [.text "name" t.name, .textOrNull "alias" t.altName]
  | .quoted v => IsNode "quoted" [.value "value" v]
  | .casted c v => IsNode "casted" [.column "attribute" c, .value "value" v]
  -- The table of a bound column is not kept, so any will do.
  | .bind b => IsNode "bind" [
      .required "attribute" fun j => ∃ table, IsRecord (partsOfColumn table b.name b.type) j,
      .value "value" b.value]
  | .list items => IsNode "list" [.required "items" (IsArray (AreShown items))]
  | .and operands => IsNode "and" [.required "children" (IsArray (AreShown operands))]
  | .unary op e => IsNode op.tag [.required "expr" (IsShown e)]
  | .binary op l r => IsNode op.tag [.required "left" (IsShown l), .required "right" (IsShown r)]
  | .tableAlias relation name => IsNode "table_alias" [
      .required "relation" (IsShown relation), .text "name" name]
  | .between e low high => IsNode "between" [
      .required "expr" (IsShown e), .required "low" (IsShown low), .required "high" (IsShown high)]
  | .like negated l r escape caseSensitive => IsNode (likeTag negated) [
      .required "left" (IsShown l), .required "right" (IsShown r),
      ⟨"escape", IsShownOrNull escape, escape = none⟩, .flag "case_sensitive" true caseSensitive]
  | .regexp negated l r caseSensitive => IsNode (regexpTag negated) [
      .required "left" (IsShown l), .required "right" (IsShown r),
      .flag "case_sensitive" true caseSensitive]
  | .call name args distinct altName => IsNode "named_function" [
      .text "name" name, ⟨"args", IsArray (AreShown args), args = []⟩,
      .flag "distinct" false distinct, .textOrNull "alias" altName]
  | .inList m => IsNode "homogeneous_in" [
      .column "attribute" m.column,
      .required "values" (IsArray (Json.canonicalItems · = m.values)),
      .flag "negated" false (m.polarity == .notIn)]
  | .select s => IsNode "select" (partsOfSelect s)

/-- Items that show trees in order. -/
def AreShown : List Document → List Json → Prop
  | [], [] => True
  | n :: ns, j :: js => IsShown n j ∧ AreShown ns js
  | _, _ => False

/-- A tree, or null for none. -/
def IsShownOrNull : Option Document → Json → Prop
  | none, j => j = .null
  | some n, j => IsShown n j

def partsOfJoin : Join String Json → List Part
  | ⟨kind, relation, on⟩ =>
    [⟨"kind", (· = .string kind.name), kind = .inner⟩, .required "relation" (IsShown relation),
      ⟨"on", IsShownOrNull on, on = none⟩]

/-- Items that show joins in order. -/
def AreShownJoins : List (Join String Json) → List Json → Prop
  | [], [] => True
  | n :: ns, j :: js => IsRecord (partsOfJoin n) j ∧ AreShownJoins ns js
  | _, _ => False

def partsOfSelect : Select String Json → List Part
  | ⟨distinct, projections, source, joins, wheres, groups, havings, orders, limit, offset⟩ =>
    [⟨"distinct", IsShownOrNull distinct, distinct = none⟩,
      ⟨"projections", IsArray (AreShown projections), projections = []⟩,
      ⟨"from", IsShownOrNull source, source = none⟩,
      ⟨"joins", IsArray (AreShownJoins joins), joins = []⟩,
      ⟨"wheres", IsArray (AreShown wheres), wheres = []⟩,
      ⟨"groups", IsArray (AreShown groups), groups = []⟩,
      ⟨"havings", IsArray (AreShown havings), havings = []⟩,
      ⟨"orders", IsArray (AreShown orders), orders = []⟩,
      ⟨"limit", IsShownOrNull limit, limit = none⟩,
      ⟨"offset", IsShownOrNull offset, offset = none⟩]
end

/-- The texts of a document, with at most 127 containers in each other. -/
def IsWritten (doc : Document) (text : String) : Prop :=
  ∃ j, doc.IsShown j ∧ j.depth ≤ 127 ∧ j.IsText text.toList

/-! ## Readings of values -/

theorem ofItems_eq_map (items : List Json) : Reading.ofItems items = items.map Reading.of := by
  induction items with
  | nil => rfl
  | cons j js ih => rw [Reading.ofItems, ih, List.map_cons]

theorem ofFields_eq_map (fields : List (String × Json)) :
    Reading.ofFields fields = fields.map (Prod.map id Reading.of) := by
  induction fields with
  | nil => rfl
  | cons field rest ih => rw [Reading.ofFields, ih, List.map_cons]; rfl

mutual
theorem json_of : (j : Json) → (Reading.of j).json = j
  | .null | .bool _ | .number _ | .string _ => rfl
  | .array items => congrArg Json.array (json_ofItems items)
  | .object fields => congrArg Json.object (json_ofFields fields)

theorem json_ofItems : (items : List Json) → (Reading.ofItems items).map (·.json) = items
  | [] => rfl
  | j :: js => by rw [Reading.ofItems, List.map_cons, json_of j, json_ofItems js]

theorem json_ofFields : (fields : List (String × Json)) →
    (Reading.ofFields fields).map (fun (k, r) => (k, r.json)) = fields
  | [] => rfl
  | (k, j) :: rest => by simp [Reading.ofFields, json_of j, json_ofFields rest]
end

/-- A value that is read as a document, both as the outermost one and inside another. -/
structure Reads (j : Json) (doc : Document) : Prop where
  inside : (Reading.of j).node = some doc
  outermost : ofJson? j = some doc

theorem Reads.ne_null {j : Json} {doc : Document} (h : Reads j doc) : j ≠ .null := by
  rintro rfl
  cases h.inside

/-! ## Readings of nodes -/

theorem forms_distinct : ∀ form ∈ forms, ("node" :: form.parts).Nodup := by decide

/-- Parts that make a document, wherever they come from. -/
structure Form.Makes (form : Form) (parts : List Part) (doc : Document) : Prop where
  names : parts.map (·.name) = form.parts
  build : ∀ s, (∀ p ∈ parts, p.HeldBy Reading.of s) → form.build s = some doc

section

variable {tag : String} {form : Form} {form? : Json → Option Form} {parts : List Part}
  {doc : Document}

theorem nodeOfArray?_eq_some {items : List Json} (hmakes : form.Makes parts doc)
    (hdistinct : ("node" :: form.parts).Nodup) (hform : form? (.string tag) = some form)
    (hitems : ShowsItems (.text "node" tag :: parts) items) :
    nodeOfArray? form? (Reading.ofItems items) = some doc := by
  rw [← hmakes.names] at hdistinct
  cases hitems with
  | nil hdefaults => exact (hdefaults _ (.head _)).elim
  | @cons _ _ j items htag hrest =>
    obtain rfl : j = .string tag := htag
    obtain ⟨s, hs, hheld⟩ := hrest.exists_slots (List.nodup_cons.mp hdistinct).2 Reading.of
    rw [hmakes.names, ← ofItems_eq_map] at hs
    simp [Reading.ofItems, nodeOfArray?, json_of, hform, hs, hmakes.build s hheld]

theorem nodeOfObject?_eq_some {own others fields : List (String × Json)}
    (hmakes : form.Makes parts doc) (hdistinct : ("node" :: form.parts).Nodup)
    (hform : form? (.string tag) = some form)
    (hown : ShowsFields (.text "node" tag :: parts) own)
    (hothers : ∀ field ∈ others, field.1 ∉ "node" :: parts.map (·.name))
    (hperm : fields.Perm (own ++ others)) :
    nodeOfObject? form? (Reading.ofFields fields) = some doc := by
  rw [← hmakes.names] at hdistinct
  obtain ⟨hnode, hparts⟩ := List.nodup_cons.mp hdistinct
  cases hown with
  | omitted hdefault => exact hdefault.elim
  | @shown _ _ j own htag hown =>
    obtain rfl : j = .string tag := htag
    have hperm : fields.Perm (("node", .string tag) :: (own ++ others)) := hperm
    -- No part and no other key is called like the tag, so that the tag is found alone.
    have hrest : ∀ field ∈ own ++ others, field.1 ≠ "node" := by
      intro field hfield heq
      rcases List.mem_append.mp hfield with h | h
      · exact hnode (heq ▸ hown.sublist.subset (List.mem_map_of_mem h))
      · exact hothers field h (heq ▸ List.mem_cons_self)
    obtain ⟨htags, hfields⟩ := filter_key_of_perm hperm hrest
    obtain ⟨s, hs, hheld⟩ := hown.exists_slots
      (fun field h hin => hothers field h (.tail _ hin)) hfields hparts Reading.of
    rw [hmakes.names] at hs
    rw [nodeOfObject?, ofFields_eq_map, List.filter_map, List.filter_map]
    simp [Function.comp_def, htags, hs, json_of, hform, hmakes.build s hheld]

/-- A node is read as what its parts make. -/
theorem IsNode.reads {j : Json} (form : Form) (hform : namedForm? (.string tag) = some form)
    (hmakes : form.Makes parts doc) (hj : IsNode tag parts j) : Reads j doc := by
  have hmem : form ∈ forms := by
    rw [namedForm?] at hform
    exact List.mem_of_find?_eq_some hform
  have hdistinct := forms_distinct form hmem
  have hany : anyForm? (.string tag) = some form := hform
  cases hj with
  | object hown hothers hperm =>
    exact ⟨nodeOfObject?_eq_some hmakes hdistinct hany hown hothers hperm,
      nodeOfObject?_eq_some hmakes hdistinct hform hown hothers hperm⟩
  | array hitems =>
    exact ⟨nodeOfArray?_eq_some hmakes hdistinct hany hitems,
      nodeOfArray?_eq_some hmakes hdistinct hform hitems⟩

end

/-! ## Readings of parts -/

section

variable {table : Option String} {name type : String}

theorem column_of_heldBy {s : Slots Json}
    (hs : ∀ p ∈ partsOfColumn table name type, p.HeldBy id s) :
    s.withDefault "table" none stringOrNull? = some table ∧
      s.required "name" string? = some name ∧ s.required "type" string? = some type := by
  simp only [partsOfColumn, List.forall_mem_cons] at hs
  obtain ⟨htable, hname, htype, -⟩ := hs
  refine ⟨htable.withDefault id ?_, hname.required id ?_, htype.required id ?_⟩
  · rintro _ rfl
    cases table <;> rfl
  · rintro _ rfl
    rfl
  · rintro _ rfl
    rfl

theorem column?_of_isRecord {j : Json} (h : IsRecord (partsOfColumn table name type) j) :
    column? j = some ⟨table, name, type⟩ := by
  have hdistinct : (["table", "name", "type"] : List String).Nodup := by decide
  cases h with
  | object hown hothers hperm =>
    obtain ⟨s, hs, hheld⟩ := hown.exists_slots hothers hperm hdistinct id
    obtain ⟨htable, hname, htype⟩ := column_of_heldBy hheld
    rw [Prod.map_id, List.map_id] at hs
    have hs : Slots.ofObject? ["table", "name", "type"] _ = some s := hs
    simp [column?, hs, htable, hname, htype]
  | array hitems =>
    obtain ⟨s, hs, hheld⟩ := hitems.exists_slots hdistinct id
    obtain ⟨htable, hname, htype⟩ := column_of_heldBy hheld
    rw [List.map_id] at hs
    have hs : Slots.ofArray? ["table", "name", "type"] _ = some s := hs
    simp [column?, hs, htable, hname, htype]

end

namespace Part.HeldBy

variable {s : Slots Reading} {name : String}

theorem string {t : String} (h : (Part.text name t).HeldBy Reading.of s) :
    s.required name Reading.string = some t := by
  refine h.required id ?_
  rintro _ rfl
  rfl

theorem stringOrNull {o : Option String} (h : (Part.textOrNull name o).HeldBy Reading.of s) :
    s.withDefault name none Reading.stringOrNull = some o := by
  refine h.withDefault id ?_
  rintro _ rfl
  cases o <;> rfl

theorem flag {default b : Bool} (h : (Part.flag name default b).HeldBy Reading.of s) :
    s.withDefault name default Reading.flag = some b := by
  refine h.withDefault id ?_
  rintro _ rfl
  rfl

theorem value {v : Json} (h : (Part.value name v).HeldBy Reading.of s) :
    s.required name Reading.value = some v := by
  refine h.required id ?_
  rintro j rfl
  rw [Reading.value, json_of]

theorem column {c : Column String} (h : (Part.column name c).HeldBy Reading.of s) :
    s.required name Reading.column = some c := by
  refine h.required id fun j hj => ?_
  rw [Reading.column, json_of, column?_of_isRecord hj]

end Part.HeldBy

/-! ## Readings of trees -/

/-- A document that is read from every value that shows it. -/
def IsRead (doc : Document) : Prop := ∀ j, doc.IsShown j → Reads j doc

theorem mapM_ofItems {α : Type} {Shows : α → Json → Prop} {read : Reading → Option α}
    {as : List α} {items : List Json} (h : List.Forall₂ Shows as items)
    (hread : ∀ a ∈ as, ∀ j, Shows a j → read (Reading.of j) = some a) :
    (Reading.ofItems items).mapM read = some as := by
  induction h with
  | nil => rfl
  | @cons a j as js hj _ ih =>
    obtain ⟨ha, has⟩ := List.forall_mem_cons.mp hread
    rw [Reading.ofItems, List.mapM_cons, ha j hj, ih has]
    rfl

theorem AreShown.forall₂ : {ns : List Document} → {items : List Json} → AreShown ns items →
    List.Forall₂ IsShown ns items
  | [], [], _ => .nil
  | _ :: _, _ :: _, h => .cons h.1 (AreShown.forall₂ h.2)

theorem AreShownJoins.forall₂ : {ns : List (Join String Json)} → {items : List Json} →
    AreShownJoins ns items → List.Forall₂ (fun n => IsRecord (partsOfJoin n)) ns items
  | [], [], _ => .nil
  | _ :: _, _ :: _, h => .cons h.1 (AreShownJoins.forall₂ h.2)

theorem nodes_of_areShown {ns : List Document} (hns : ∀ n ∈ ns, IsRead n) {items : List Json}
    (h : AreShown ns items) : (Reading.of (.array items)).nodes = some ns :=
  mapM_ofItems h.forall₂ fun n hn j hj => (hns n hn j hj).inside

theorem joinKindNamed?_name (kind : JoinKind) : joinKindNamed? kind.name = some kind := by
  cases kind <;> rfl

namespace Part.HeldBy

variable {s : Slots Reading} {name : String}

theorem node {n : Document} (hn : IsRead n)
    (h : (Part.required name (IsShown n)).HeldBy Reading.of s) :
    s.required name Reading.node = some n :=
  h.required id fun j hj => (hn j hj).inside

theorem nodeOrNull {o : Option Document} (ho : ∀ n ∈ o.toList, IsRead n)
    (h : Part.HeldBy Reading.of s ⟨name, IsShownOrNull o, o = none⟩) :
    s.withDefault name none Reading.nodeOrNull = some o := by
  refine h.withDefault id fun j hj => ?_
  cases o with
  | none =>
    obtain rfl : j = .null := hj
    rfl
  | some n =>
    have hread : Reads j n := ho n (by simp) j hj
    unfold Reading.nodeOrNull
    rw [json_of, hread.inside]
    split
    · exact absurd rfl hread.ne_null
    · rfl

theorem nodes {ns : List Document} (hns : ∀ n ∈ ns, IsRead n)
    (h : (Part.required name (IsArray (AreShown ns))).HeldBy Reading.of s) :
    s.required name Reading.nodes = some ns := by
  refine h.required id ?_
  rintro _ ⟨items, hitems, rfl⟩
  exact nodes_of_areShown hns hitems

theorem nodesOrNone {ns : List Document} (hns : ∀ n ∈ ns, IsRead n)
    (h : Part.HeldBy Reading.of s ⟨name, IsArray (AreShown ns), ns = []⟩) :
    s.withDefault name [] Reading.nodes = some ns := by
  refine h.withDefault id ?_
  rintro _ ⟨items, hitems, rfl⟩
  exact nodes_of_areShown hns hitems

end Part.HeldBy

theorem join?_of_heldBy {n : Join String Json} (hn : ∀ c ∈ n.children, IsRead c)
    {s : Slots Reading} (hs : ∀ p ∈ partsOfJoin n, p.HeldBy Reading.of s) :
    join? s = some n := by
  obtain ⟨kind, relation, on⟩ := n
  obtain ⟨hrelation, hon⟩ := List.forall_mem_cons.mp hn
  simp only [partsOfJoin, List.forall_mem_cons] at hs
  obtain ⟨hk, hr, ho, -⟩ := hs
  have hkind : s.withDefault "kind" .inner (fun r => joinKind? r.json) = some kind := by
    refine hk.withDefault id ?_
    rintro _ rfl
    exact joinKindNamed?_name kind
  simp [join?, hkind, hr.node hrelation, ho.nodeOrNull hon]

theorem join_of_isRecord {n : Join String Json} (hn : ∀ c ∈ n.children, IsRead c) {j : Json}
    (h : IsRecord (partsOfJoin n) j) : (Reading.of j).join = some n := by
  have hnames : (partsOfJoin n).map (·.name) = joinParts := by cases n; rfl
  have hdistinct : ((partsOfJoin n).map (·.name)).Nodup := hnames ▸ by decide
  cases h with
  | @object _ _ fields hown hothers hperm =>
    obtain ⟨s, hs, hheld⟩ := hown.exists_slots hothers hperm hdistinct Reading.of
    show (Slots.ofObject? joinParts (Reading.ofFields fields) >>= join?) = some n
    rw [hnames] at hs
    rw [ofFields_eq_map, hs]
    exact join?_of_heldBy hn hheld
  | @array items hitems =>
    obtain ⟨s, hs, hheld⟩ := hitems.exists_slots hdistinct Reading.of
    show (Slots.ofArray? joinParts (Reading.ofItems items) >>= join?) = some n
    rw [hnames] at hs
    rw [ofItems_eq_map, hs]
    exact join?_of_heldBy hn hheld

theorem Part.HeldBy.joins {s : Slots Reading} {name : String} {ns : List (Join String Json)}
    (hns : ∀ c ∈ ns.flatMap Join.children, IsRead c)
    (h : Part.HeldBy Reading.of s ⟨name, IsArray (AreShownJoins ns), ns = []⟩) :
    s.withDefault name [] Reading.joins = some ns := by
  refine h.withDefault id ?_
  rintro _ ⟨items, hitems, rfl⟩
  exact mapM_ofItems hitems.forall₂ fun n hn j hj =>
    join_of_isRecord (fun c hc => hns c (List.mem_flatMap.mpr ⟨n, hn, hc⟩)) hj

/-! ## What the parts of each node make -/

theorem makes_sql (text : String) : sqlForm.Makes [.text "sql" text] (.sql text) := by
  refine ⟨rfl, fun s hs => ?_⟩
  simp only [List.forall_mem_cons] at hs
  obtain ⟨htext, -⟩ := hs
  simp [sqlForm, htext.string]

theorem makes_column (c : Column String) :
    columnForm.Makes (partsOfColumn c.table c.name c.type) (.column c) := by
  refine ⟨rfl, fun s hs => ?_⟩
  simp only [partsOfColumn, List.forall_mem_cons] at hs
  obtain ⟨htable, hname, htype, -⟩ := hs
  simp [columnForm, htable.stringOrNull, hname.string, htype.string]

theorem makes_table (t : Table) :
    tableForm.Makes [.text "name" t.name, .textOrNull "alias" t.altName] (.table t) := by
  refine ⟨rfl, fun s hs => ?_⟩
  simp only [List.forall_mem_cons] at hs
  obtain ⟨hname, halias, -⟩ := hs
  simp [tableForm, hname.string, halias.stringOrNull]

theorem makes_quoted (v : Json) : quotedForm.Makes [.value "value" v] (.quoted v) := by
  refine ⟨rfl, fun s hs => ?_⟩
  simp only [List.forall_mem_cons] at hs
  obtain ⟨hvalue, -⟩ := hs
  simp [quotedForm, hvalue.value]

theorem makes_casted (c : Column String) (v : Json) :
    castedForm.Makes [.column "attribute" c, .value "value" v] (.casted c v) := by
  refine ⟨rfl, fun s hs => ?_⟩
  simp only [List.forall_mem_cons] at hs
  obtain ⟨hcolumn, hvalue, -⟩ := hs
  simp [castedForm, hcolumn.column, hvalue.value]

theorem makes_bind (b : Bind String Json) :
    bindForm.Makes [
      .required "attribute" fun j => ∃ table, IsRecord (partsOfColumn table b.name b.type) j,
      .value "value" b.value] (.bind b) := by
  refine ⟨rfl, fun s hs => ?_⟩
  simp only [List.forall_mem_cons] at hs
  obtain ⟨⟨j, ⟨table, hj⟩, hget⟩ | ⟨hdefault, -⟩, hvalue, -⟩ := hs
  · have hcolumn : s.required "attribute" Reading.column = some ⟨table, b.name, b.type⟩ := by
      rw [← column?_of_isRecord hj, Slots.required, show s.get? "attribute" = _ from hget]
      exact congrArg column? (json_of j)
    simp [bindForm, hcolumn, hvalue.value]
  · exact hdefault.elim

theorem makes_list {items : List Document} (hitems : ∀ n ∈ items, IsRead n) :
    listForm.Makes [.required "items" (IsArray (AreShown items))] (.list items) := by
  refine ⟨rfl, fun s hs => ?_⟩
  simp only [List.forall_mem_cons] at hs
  obtain ⟨h, -⟩ := hs
  simp [listForm, h.nodes hitems]

theorem makes_and {operands : List Document} (hoperands : ∀ n ∈ operands, IsRead n) :
    andForm.Makes [.required "children" (IsArray (AreShown operands))] (.and operands) := by
  refine ⟨rfl, fun s hs => ?_⟩
  simp only [List.forall_mem_cons] at hs
  obtain ⟨h, -⟩ := hs
  simp [andForm, h.nodes hoperands]

theorem makes_unary (op : UnaryOp) {e : Document} (he : IsRead e) :
    (unaryForm op.tag op).Makes [.required "expr" (IsShown e)] (.unary op e) := by
  refine ⟨rfl, fun s hs => ?_⟩
  simp only [List.forall_mem_cons] at hs
  obtain ⟨h, -⟩ := hs
  simp [unaryForm, h.node he]

theorem makes_binary (op : BinaryOp) {l r : Document} (hl : IsRead l) (hr : IsRead r) :
    (binaryForm op.tag op).Makes [.required "left" (IsShown l), .required "right" (IsShown r)]
      (.binary op l r) := by
  refine ⟨rfl, fun s hs => ?_⟩
  simp only [List.forall_mem_cons] at hs
  obtain ⟨hleft, hright, -⟩ := hs
  simp [binaryForm, hleft.node hl, hright.node hr]

theorem makes_tableAlias {relation : Document} (name : String) (hrelation : IsRead relation) :
    tableAliasForm.Makes [.required "relation" (IsShown relation), .text "name" name]
      (.tableAlias relation name) := by
  refine ⟨rfl, fun s hs => ?_⟩
  simp only [List.forall_mem_cons] at hs
  obtain ⟨hrel, hname, -⟩ := hs
  simp [tableAliasForm, hrel.node hrelation, hname.string]

theorem makes_between {e low high : Document} (he : IsRead e) (hlow : IsRead low)
    (hhigh : IsRead high) :
    betweenForm.Makes [.required "expr" (IsShown e), .required "low" (IsShown low),
      .required "high" (IsShown high)] (.between e low high) := by
  refine ⟨rfl, fun s hs => ?_⟩
  simp only [List.forall_mem_cons] at hs
  obtain ⟨h, hl, hh, -⟩ := hs
  simp [betweenForm, h.node he, hl.node hlow, hh.node hhigh]

theorem makes_like (tag : String) (negated caseSensitive : Bool) {l r : Document}
    {escape : Option Document} (hl : IsRead l) (hr : IsRead r)
    (hescape : ∀ n ∈ escape.toList, IsRead n) :
    (likeForm tag negated).Makes [.required "left" (IsShown l), .required "right" (IsShown r),
      ⟨"escape", IsShownOrNull escape, escape = none⟩, .flag "case_sensitive" true caseSensitive]
      (.like negated l r escape caseSensitive) := by
  refine ⟨rfl, fun s hs => ?_⟩
  simp only [List.forall_mem_cons] at hs
  obtain ⟨hleft, hright, hesc, hcase, -⟩ := hs
  simp [likeForm, hleft.node hl, hright.node hr, hesc.nodeOrNull hescape, hcase.flag]

theorem makes_regexp (tag : String) (negated caseSensitive : Bool) {l r : Document}
    (hl : IsRead l) (hr : IsRead r) :
    (regexpForm tag negated).Makes [.required "left" (IsShown l), .required "right" (IsShown r),
      .flag "case_sensitive" true caseSensitive] (.regexp negated l r caseSensitive) := by
  refine ⟨rfl, fun s hs => ?_⟩
  simp only [List.forall_mem_cons] at hs
  obtain ⟨hleft, hright, hcase, -⟩ := hs
  simp [regexpForm, hleft.node hl, hright.node hr, hcase.flag]

theorem makes_call (name : String) {args : List Document} (distinct : Bool)
    (altName : Option String) (hargs : ∀ n ∈ args, IsRead n) :
    callForm.Makes [.text "name" name, ⟨"args", IsArray (AreShown args), args = []⟩,
      .flag "distinct" false distinct, .textOrNull "alias" altName]
      (.call name args distinct altName) := by
  refine ⟨rfl, fun s hs => ?_⟩
  simp only [List.forall_mem_cons] at hs
  obtain ⟨hname, h, hdistinct, halias, -⟩ := hs
  simp [callForm, hname.string, h.nodesOrNone hargs, hdistinct.flag, halias.stringOrNull]

theorem makes_inList (m : InList String Json) :
    inListForm.Makes [.column "attribute" m.column,
      .required "values" (IsArray (Json.canonicalItems · = m.values)),
      .flag "negated" false (m.polarity == .notIn)] (.inList m) := by
  refine ⟨rfl, fun s hs => ?_⟩
  simp only [List.forall_mem_cons] at hs
  obtain ⟨hcolumn, hvs, hnegated, -⟩ := hs
  have hvalues : s.required "values" Reading.values = some m.values := by
    refine hvs.required id ?_
    rintro _ ⟨items, hitems, rfl⟩
    rw [Reading.values, json_of, values?, hitems]
  obtain ⟨c, vs, polarity⟩ := m
  cases polarity <;> simp [inListForm, hcolumn.column, hvalues, hnegated.flag]

theorem makes_select {s : Select String Json} (hs : ∀ n ∈ s.children, IsRead n) :
    selectForm.Makes (partsOfSelect s) (.select s) := by
  obtain ⟨distinct, projections, source, joins, wheres, groups, havings, orders, limit,
    offset⟩ := s
  simp only [Select.children, List.forall_mem_append] at hs
  obtain ⟨hdistinct, hprojections, hsource, hjoins, hwheres, hgroups, hhavings, horders, hlimit,
    hoffset⟩ := hs
  refine ⟨rfl, fun s hs => ?_⟩
  simp only [partsOfSelect, List.forall_mem_cons] at hs
  obtain ⟨hd, hp, hf, hj, hw, hg, hh, ho, hl, hof, -⟩ := hs
  simp [selectForm, hd.nodeOrNull hdistinct, hp.nodesOrNone hprojections, hf.nodeOrNull hsource,
    hj.joins hjoins, hw.nodesOrNone hwheres, hg.nodesOrNone hgroups, hh.nodesOrNone hhavings,
    ho.nodesOrNone horders, hl.nodeOrNull hlimit, hof.nodeOrNull hoffset]

/-! ## Readings of documents -/

/-- A document is read from every value that shows it. -/
theorem isRead (doc : Document) : IsRead doc := by
  induction doc using Node.children_induction with
  | step n ih =>
    -- The tag picks the form of the node; what stands in its slots is read by induction.
    intro j hj
    cases n with
    | sql text => exact IsNode.reads sqlForm rfl (makes_sql text) hj
    | star => exact IsNode.reads starForm rfl ⟨rfl, fun _ _ => rfl⟩ hj
    | distinct => exact IsNode.reads distinctForm rfl ⟨rfl, fun _ _ => rfl⟩ hj
    | column c => exact IsNode.reads columnForm rfl (makes_column c) hj
    | table t => exact IsNode.reads tableForm rfl (makes_table t) hj
    | quoted v => exact IsNode.reads quotedForm rfl (makes_quoted v) hj
    | casted c v => exact IsNode.reads castedForm rfl (makes_casted c v) hj
    | bind b => exact IsNode.reads bindForm rfl (makes_bind b) hj
    | list items => exact IsNode.reads listForm rfl (makes_list ih) hj
    | and operands => exact IsNode.reads andForm rfl (makes_and ih) hj
    | unary op e =>
      have hform : namedForm? (.string op.tag) = some (unaryForm op.tag op) := by cases op <;> rfl
      exact IsNode.reads _ hform (makes_unary op (ih e (.head _))) hj
    | binary op l r =>
      have hform : namedForm? (.string op.tag) = some (binaryForm op.tag op) := by
        cases op <;> rfl
      exact IsNode.reads _ hform (makes_binary op (ih l (.head _)) (ih r (.tail _ (.head _)))) hj
    | tableAlias relation name =>
      exact IsNode.reads tableAliasForm rfl (makes_tableAlias name (ih relation (.head _))) hj
    | between e low high =>
      have he := ih e (.head _)
      have hlow := ih low (.tail _ (.head _))
      have hhigh := ih high (.tail _ (.tail _ (.head _)))
      exact IsNode.reads betweenForm rfl (makes_between he hlow hhigh) hj
    | like negated l r escape caseSensitive =>
      obtain ⟨hl, hrest⟩ := List.forall_mem_cons.mp ih
      obtain ⟨hr, hescape⟩ := List.forall_mem_cons.mp hrest
      have hform : namedForm? (.string (likeTag negated)) =
          some (likeForm (likeTag negated) negated) := by cases negated <;> rfl
      exact IsNode.reads _ hform (makes_like _ negated caseSensitive hl hr hescape) hj
    | regexp negated l r caseSensitive =>
      have hl := ih l (.head _)
      have hr := ih r (.tail _ (.head _))
      have hform : namedForm? (.string (regexpTag negated)) =
          some (regexpForm (regexpTag negated) negated) := by cases negated <;> rfl
      exact IsNode.reads _ hform (makes_regexp _ negated caseSensitive hl hr) hj
    | call name args distinct altName =>
      exact IsNode.reads callForm rfl (makes_call name distinct altName ih) hj
    | inList m => exact IsNode.reads inListForm rfl (makes_inList m) hj
    | select s => exact IsNode.reads selectForm rfl (makes_select ih) hj

theorem read?_of_isWritten {doc : Document} {text : String} (h : doc.IsWritten text) :
    read? text = some doc := by
  obtain ⟨j, hshown, hdepth, htext⟩ := h
  rw [read?, Json.read?_of_isText htext hdepth]
  exact (isRead doc j hshown).outermost

theorem read_of_isWritten {doc : Document} {text : String} (h : doc.IsWritten text)
    (types : TypeMap) : Query.read types text = doc.toQuery types := by
  rw [Query.read, read?_of_isWritten h]

/-- A document means the same however it is written: all its texts give the query that it resolves
to, or fail at the column at which its resolution fails. -/
theorem texts_of_a_document_give_one_query (types : TypeMap) {doc : Document}
    {text other : String} (htext : doc.IsWritten text) (hother : doc.IsWritten other) :
    (∃ q, doc.toQuery types = .ok q ∧
        Query.read types text = .ok q ∧ Query.read types other = .ok q) ∨
      ∃ e, doc.toQuery types = .error (.unresolved e) ∧
        Query.read types text = .error (.unresolved e) ∧
          Query.read types other = .error (.unresolved e) := by
  rw [read_of_isWritten htext, read_of_isWritten hother, toQuery]
  cases doc.resolve types [] with
  | ok result => exact .inl ⟨result.1, rfl, rfl, rfl⟩
  | error e => exact .inr ⟨e, rfl, rfl, rfl⟩

/-- A list of one table, in objects. -/
def tableInObjects : String :=
  "\x7b\"items\":[\x7b\"name\":\"t\",\"node\":\"table\",\"x\":true\x7d],\"node\":\"list\"\x7d"

/-- The same list in arrays. -/
def tableInArrays : String := "[ \"list\", [[\"table\",\"t\",null]]]\n"

theorem isWritten_tableInObjects : IsWritten (.list [.table ⟨"t", none⟩]) tableInObjects := by
  refine ⟨.object [("items", .array [.object [("name", .string "t"), ("node", .string "table"),
    ("x", .bool true)]]), ("node", .string "list")], ?_, by decide, ?_⟩
  · have htable : IsShown (.table ⟨"t", none⟩) (.object [("name", .string "t"),
        ("node", .string "table"), ("x", .bool true)]) := by
      have hothers : ∀ field ∈ [("x", Json.bool true)], field.1 ∉ ["node", "name", "alias"] := by
        simp
      exact .object (.shown rfl (.shown rfl (.omitted rfl .nil))) hothers (.swap _ _ _)
    have hitems : AreShown [.table ⟨"t", none⟩] [_] := ⟨htable, trivial⟩
    have hothers : ∀ field ∈ ([] : List (String × Json)), field.1 ∉ ["node", "items"] := by simp
    exact .object (.shown rfl (.shown ⟨_, hitems, rfl⟩ .nil)) hothers (.swap _ _ _)
  · exact .token .openObject <| .token (.string (.plain rfl)) <| .token .colon <|
      .token .openArray <| .token .openObject <|
      .token (.string (.plain rfl)) <| .token .colon <|
      .token (.string (.plain rfl)) <| .token .comma <|
      .token (.string (.plain rfl)) <| .token .colon <|
      .token (.string (.plain rfl)) <| .token .comma <|
      .token (.string (.plain rfl)) <| .token .colon <| .token .trueWord <|
      .token .closeObject <| .token .closeArray <| .token .comma <|
      .token (.string (.plain rfl)) <| .token .colon <|
      .token (.string (.plain rfl)) <| .token .closeObject <| .nil rfl

theorem isWritten_tableInArrays : IsWritten (.list [.table ⟨"t", none⟩]) tableInArrays := by
  refine ⟨.array [.string "list", .array [.array [.string "table", .string "t", .null]]],
    ?_, by decide, ?_⟩
  · have htable : IsShown (.table ⟨"t", none⟩)
        (.array [.string "table", .string "t", .null]) :=
      .array (.cons rfl (.cons rfl (.cons rfl (.nil nofun))))
    have hitems : AreShown [.table ⟨"t", none⟩] [_] := ⟨htable, trivial⟩
    exact .array (.cons rfl (.cons ⟨_, hitems, rfl⟩ (.nil nofun)))
  · exact .token .openArray <| .gap rfl <| .token (.string (.plain rfl)) <|
      .token .comma <| .gap rfl <| .token .openArray <| .token .openArray <|
      .token (.string (.plain rfl)) <| .token .comma <|
      .token (.string (.plain rfl)) <| .token .comma <| .token .nullWord <|
      .token .closeArray <| .token .closeArray <| .token .closeArray <| .gap rfl <| .nil rfl

theorem texts_of_a_document_give_one_query_of_two :
    Query.read .empty tableInObjects = .ok (.list [.table ⟨"t", none⟩]) ∧
      Query.read .empty tableInArrays = .ok (.list [.table ⟨"t", none⟩]) := by
  have hquery : toQuery .empty (.list [.table ⟨"t", none⟩]) = .ok (.list [.table ⟨"t", none⟩]) :=
    rfl
  obtain ⟨q, hq, htext, hother⟩ | ⟨e, he, -⟩ := texts_of_a_document_give_one_query .empty
    isWritten_tableInObjects isWritten_tableInArrays
  · rw [htext, hother, ← hq, hquery]
    exact ⟨rfl, rfl⟩
  · rw [hquery] at he
    cases he

end Document

end SqlTree
