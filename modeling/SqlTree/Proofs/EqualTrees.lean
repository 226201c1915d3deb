-- Equal trees. Equality compares column types by their names and does not tell the two zeros apart.
-- A tree that has been read has the column types that their names stand for, so two such trees that
-- are equal differ in nothing but the signs of zeros.
import SqlTree.Proofs.CommonLanguage
import SqlTree.Proofs.Congruence
import SqlTree.Proofs.Resolution
import SqlTree.Proofs.SignedZeros
import SqlTree.Proofs.TypeLookup

namespace SqlTree

/-! ## Column types by name -/

namespace TypeMap

theorem exists_nest_of_lookup {m : TypeMap} {name : String} {c : Caster}
    (h : m.lookup name = .ok c) : ∃ entry ∈ m.entries, ∃ k, c = nest k entry.2 := by
  unfold lookup at h
  cases hfind : m.entries.find? (·.1 == (splitSuffixes (normalize name)).2) with
  | none => simp [hfind] at h
  | some entry =>
    simp only [hfind, Except.ok.injEq] at h
    exact ⟨entry, List.mem_of_find?_eq_some hfind, _, h.symm⟩

theorem isSuffixes_replicate (k : Nat) :
    ∃ cs, IsSuffixes k cs ∧ String.join (List.replicate k "[]") = String.ofList cs := by
  refine ⟨(List.replicate k ['[', ']']).flatten, ?_, ?_⟩
  · induction k with
    | zero => exact .nil
    | succ k ih => exact .array ih
  · apply String.toList_inj.mp
    rw [String.toList_join, String.toList_ofList]
    induction k with
    | zero => rfl
    | succ k ih =>
      rw [List.replicate_succ, List.replicate_succ, List.flatMap_cons, List.flatten_cons, ih]
      rfl

/-- Each usual caster stands under the name of its type. -/
theorem standardNames_sqlType :
    standardNames.all (fun (c, _) => (postgres.lookup c.sqlType).toOption == some c) = true := by
  decide +kernel

theorem lookup_of_standard {c : Caster} {names : List String} (h : (c, names) ∈ standardNames) :
    postgres.lookup c.sqlType = .ok c := by
  have hfound := List.all_eq_true.mp standardNames_sqlType _ h
  cases hlookup : postgres.lookup c.sqlType with
  | error e => simp [hlookup, Except.toOption] at hfound
  | ok c' => simpa [hlookup, Except.toOption] using hfound

theorem exists_standard_of_mem {entry : String × Caster} (h : entry ∈ postgres.entries) :
    ∃ names, (entry.2, names) ∈ standardNames := by
  rw [Registered.postgres.entries, List.mem_reverse] at h
  obtain ⟨call, hcall, rfl⟩ := List.mem_map.mp h
  obtain ⟨⟨c, names⟩, hmem, hname⟩ := List.mem_flatMap.mp hcall
  obtain ⟨name, -, rfl⟩ := List.mem_map.mp hname
  exact ⟨names, hmem⟩

/-- The caster that a type's name stands for is found again by the name that it has itself. -/
theorem lookup_sqlType {name : String} {c : Caster} (h : postgres.lookup name = .ok c) :
    postgres.lookup c.sqlType = .ok c := by
  obtain ⟨entry, hentry, k, rfl⟩ := exists_nest_of_lookup h
  obtain ⟨names, hstandard⟩ := exists_standard_of_mem hentry
  obtain ⟨cs, hcs, hjoin⟩ := isSuffixes_replicate k
  rw [sqlType_nest, hjoin, lookup_append _ _ hcs, lookup_of_standard hstandard]
  rfl

/-- The caster that a name stands for, and text if it stands for none. -/
def named (name : String) : Caster := (postgres.lookup name).toOption.getD .text

theorem named_sqlType (name : String) : named (named name).sqlType = named name := by
  unfold named
  cases h : postgres.lookup name with
  | ok c =>
    show (postgres.lookup c.sqlType).toOption.getD .text = c
    rw [lookup_sqlType h]
    rfl
  | error e =>
    have htext : (Caster.text, ["text", "varchar", "character varying", "citext", "uuid"]) ∈
        standardNames := by simp [standardNames]
    show (postgres.lookup Caster.text.sqlType).toOption.getD .text = .text
    rw [lookup_of_standard htext]
    rfl

end TypeMap

/-! ## Nodes of one kind -/

/-- Two nodes of one kind whose parts are equal. -/
inductive Node.EqualParts : Query → Query → Prop
  | sql (s : String) : EqualParts (.sql s) (.sql s)
  | star : EqualParts .star .star
  | distinct : EqualParts .distinct .distinct
  | column {a b : Column Caster} (h : a.same b = true) : EqualParts (.column a) (.column b)
  | table (t : Table) : EqualParts (.table t) (.table t)
  | quoted {v w : Value} (h : v.same w = true) : EqualParts (.quoted v) (.quoted w)
  | casted {a b : Column Caster} {v w : Value} (hv : v.same w = true) (h : a.same b = true) :
      EqualParts (.casted a v) (.casted b w)
  | bind {a b : Bind Caster Value} (h : a.same b = true) : EqualParts (.bind a) (.bind b)
  | list {as bs : List Query} (h : sameNodes as bs = true) : EqualParts (.list as) (.list bs)
  | and {as bs : List Query} (h : sameNodes as bs = true) : EqualParts (.and as) (.and bs)
  | unary (op : UnaryOp) {a b : Query} (h : a.same b = true) :
      EqualParts (.unary op a) (.unary op b)
  | binary (op : BinaryOp) {a b c d : Query} (hl : a.same b = true) (hr : c.same d = true) :
      EqualParts (.binary op a c) (.binary op b d)
  | tableAlias (name : String) {a b : Query} (h : a.same b = true) :
      EqualParts (.tableAlias a name) (.tableAlias b name)
  | between {a b c d e f : Query} (h : a.same b = true) (hlow : c.same d = true)
      (hhigh : e.same f = true) : EqualParts (.between a c e) (.between b d f)
  | like (negated caseSensitive : Bool) {a b c d : Query} {e f : Option Query}
      (hl : a.same b = true) (hr : c.same d = true) (hescape : sameOption e f = true) :
      EqualParts (.like negated a c e caseSensitive) (.like negated b d f caseSensitive)
  | regexp (negated caseSensitive : Bool) {a b c d : Query} (hl : a.same b = true)
      (hr : c.same d = true) :
      EqualParts (.regexp negated a c caseSensitive) (.regexp negated b d caseSensitive)
  | call (name : String) (distinct : Bool) (altName : Option String) {as bs : List Query}
      (h : sameNodes as bs = true) :
      EqualParts (.call name as distinct altName) (.call name bs distinct altName)
  | inList {a b : InList Caster Value} (h : a.same b = true) : EqualParts (.inList a) (.inList b)
  | select {a b : Select Caster Value} (h : a.same b = true) : EqualParts (.select a) (.select b)

theorem Node.equalParts_of_same {a b : Query} (h : a.same b = true) : EqualParts a b := by
  rw [Node.same.eq_def] at h
  split at h
  · obtain rfl := eq_of_beq h
    exact .sql _
  · exact .star
  · exact .distinct
  · exact .column h
  · obtain rfl := eq_of_beq h
    exact .table _
  · exact .quoted h
  · obtain ⟨hv, hc⟩ := Bool.and_eq_true_iff.mp h
    exact .casted hv hc
  · exact .bind h
  · exact .list h
  · exact .and h
  · simp only [Bool.and_eq_true, beq_iff_eq] at h
    obtain ⟨rfl, he⟩ := h
    exact .unary _ he
  · simp only [Bool.and_eq_true, beq_iff_eq] at h
    obtain ⟨⟨rfl, hl⟩, hr⟩ := h
    exact .binary _ hl hr
  · simp only [Bool.and_eq_true, beq_iff_eq] at h
    obtain ⟨hrelation, rfl⟩ := h
    exact .tableAlias _ hrelation
  · simp only [Bool.and_eq_true] at h
    exact .between h.1.1 h.1.2 h.2
  · simp only [Bool.and_eq_true, beq_iff_eq] at h
    obtain ⟨⟨⟨⟨rfl, hl⟩, hr⟩, hescape⟩, rfl⟩ := h
    exact .like _ _ hl hr hescape
  · simp only [Bool.and_eq_true, beq_iff_eq] at h
    obtain ⟨⟨⟨rfl, hl⟩, hr⟩, rfl⟩ := h
    exact .regexp _ _ hl hr
  · simp only [Bool.and_eq_true, beq_iff_eq] at h
    obtain ⟨⟨⟨rfl, hargs⟩, rfl⟩, rfl⟩ := h
    exact .call _ _ _ hargs
  · exact .inList h
  · exact .select h
  · cases h

/-! ## Trees without what is not rendered -/

mutual
/-- The tree with a star for what is tested against an empty list, which is not rendered. -/
def Node.prune : Query → Query
  | .list items => .list (Node.pruneAll items)
  | .and operands => .and (Node.pruneAll operands)
  | .unary op e => .unary op e.prune
  | .binary op l r =>
    .binary op (if op.isElementTest && r.isEmptyList then .star else l.prune) r.prune
  | .tableAlias relation name => .tableAlias relation.prune name
  | .between e low high => .between e.prune low.prune high.prune
  | .like negated l r escape caseSensitive =>
    .like negated l.prune r.prune (Node.pruneOption escape) caseSensitive
  | .regexp negated l r caseSensitive => .regexp negated l.prune r.prune caseSensitive
  | .call name args distinct altName => .call name (Node.pruneAll args) distinct altName
  | .select s => .select s.prune
  | leaf => leaf

def Node.pruneAll : List Query → List Query
  | [] => []
  | n :: ns => n.prune :: Node.pruneAll ns

def Node.pruneOption : Option Query → Option Query
  | none => none
  | some n => some n.prune

def Node.pruneJoins : List (Join Caster Value) → List (Join Caster Value)
  | [] => []
  | ⟨kind, relation, on⟩ :: js =>
    ⟨kind, relation.prune, Node.pruneOption on⟩ :: Node.pruneJoins js

def Select.prune : Select Caster Value → Select Caster Value
  | ⟨distinct, projections, source, js, wheres, groups, havings, orders, limit, offset⟩ =>
    ⟨Node.pruneOption distinct, Node.pruneAll projections, Node.pruneOption source,
      Node.pruneJoins js, Node.pruneAll wheres, Node.pruneAll groups, Node.pruneAll havings,
      Node.pruneAll orders, Node.pruneOption limit, Node.pruneOption offset⟩
end

namespace Node

theorem pruneAll_eq_map (ns : List Query) : pruneAll ns = ns.map prune := by
  induction ns with
  | nil => rfl
  | cons n ns ih => rw [pruneAll, ih, List.map_cons]

theorem pruneOption_eq_map (o : Option Query) : pruneOption o = o.map prune := by
  cases o <;> rfl

theorem pruneJoins_eq_map (js : List (Join Caster Value)) :
    pruneJoins js = js.map (Join.mapChildren prune) := by
  induction js with
  | nil => rfl
  | cons j js ih =>
    obtain ⟨kind, relation, on⟩ := j
    rw [pruneJoins, ih, pruneOption_eq_map, List.map_cons]
    rfl

/-- A node is pruned at its children, unless it is a test against an empty list. -/
theorem prune_cases (n : Query) :
    (∃ op l, op.isElementTest = true ∧ n = .binary op l (.list []) ∧
      n.prune = .binary op .star (.list [])) ∨ n.prune = n.mapChildren prune := by
  cases n with
  | binary op l r =>
    by_cases h : (op.isElementTest && r.isEmptyList) = true
    · obtain ⟨hop, hr⟩ := Bool.and_eq_true_iff.mp h
      obtain rfl : r = .list [] := by
        unfold isEmptyList at hr
        split at hr
        · rfl
        · cases hr
      exact .inl ⟨op, l, hop, rfl, by rw [prune, if_pos h]; rfl⟩
    · exact .inr (by rw [prune, if_neg h]; rfl)
  | select s =>
    cases s
    refine .inr ?_
    simp only [prune, Select.prune, pruneAll_eq_map, pruneOption_eq_map, pruneJoins_eq_map]
    rfl
  | sql | star | distinct | column | table | quoted | casted | bind | inList => exact .inr rfl
  | _ =>
    refine .inr ?_
    simp only [prune, pruneAll_eq_map, pruneOption_eq_map]
    rfl

theorem look_prune (n : Query) : n.prune.look = n.look := by
  rcases prune_cases n with ⟨op, l, -, rfl, h⟩ | h
  · rw [h]
    rfl
  · rw [h, look_mapChildren]

/-- What is pruned is not rendered. -/
theorem render_prune (d : Dialect) (n : Query) : n.prune.render d = n.render d := by
  induction n using children_induction with
  | step n ih =>
    rcases prune_cases n with ⟨op, l, hop, rfl, h⟩ | h
    · rw [h]
      cases op with
      | isIn | notIn => rfl
      | _ => cases hop
    · have hboth := Rendering.eq_congruence.mapChildren n (f := prune) (g := id)
        (fun c _ => (look_prune c).symm) ih
      rwa [mapChildren_id, ← h] at hboth

end Node

/-! ## Trees without signs -/

/-- The bind with positive zeros only. -/
def Bind.unsign (b : Bind Caster Value) : Bind Caster Value := { b with value := b.value.unsign }

namespace Node

/-- The leaf with positive zeros only, everywhere or only where a statement does not show their
signs, which is in all that is bound and in the literals for some columns. -/
def unsignLeaf (everywhere : Bool) : Query → Query
  | .quoted v => .quoted (if everywhere then v.unsign else v)
  | .casted c v => .casted c (if everywhere || !c.type.showsZeros then v.unsign else v)
  | .bind b => .bind b.unsign
  | .inList m => .inList { m with values := m.values.map Value.unsign }
  | n => n

/-- The tree without the signs of zeros that a statement does not show. -/
def unsignUnseen (n : Query) : Query := n.prune.mapLeaves (unsignLeaf false)

/-- The leaf with the column types that their names stand for. -/
def rename : Query → Query
  | .column c => .column { c with type := TypeMap.named c.type.sqlType }
  | .casted c v => .casted { c with type := TypeMap.named c.type.sqlType } v
  | .bind b => .bind { b with type := TypeMap.named b.type.sqlType }
  | .inList m =>
    .inList { m with column := { m.column with type := TypeMap.named m.column.type.sqlType } }
  | n => n

/-- The leaf as far as equality tells: column types by name, and zeros without signs. -/
def essence (n : Query) : Query := (rename n).unsignLeaf true

/-- What a node binds has no NaN in it. -/
def ownTame : Query → Prop
  | .bind b => b.value.same b.value = true
  | .inList m => ∀ v ∈ m.values, v.same v = true
  | _ => True

/-- What a tree binds has no NaN in it. -/
def IsTame (n : Query) : Prop := ∀ c ∈ n.nodes, c.ownTame

theorem isTame_of_children {n : Query} (hn : n.ownTame) (h : ∀ c ∈ n.children, c.IsTame) :
    n.IsTame := by
  unfold IsTame
  rw [nodes_eq, List.forall_mem_cons]
  refine ⟨hn, fun c hc => ?_⟩
  obtain ⟨child, hchild, hin⟩ := List.mem_flatMap.mp hc
  exact h child hchild c hin

/-- Trees of one essence, the first of which binds no NaN. -/
def Matches (a b : Query) : Prop := a.mapLeaves essence = b.mapLeaves essence ∧ a.IsTame

theorem matches_nodes {as bs : List Query}
    (ih : ∀ a ∈ as, ∀ b, a.same b = true → a.Matches b) (h : sameNodes as bs = true) :
    mapLeavesOf essence as = mapLeavesOf essence bs ∧ ∀ a ∈ as, a.IsTame := by
  induction as generalizing bs with
  | nil =>
    cases bs with
    | nil => exact ⟨rfl, by simp⟩
    | cons b bs => simp [sameNodes] at h
  | cons a as hrest =>
    cases bs with
    | nil => simp [sameNodes] at h
    | cons b bs =>
      rw [sameNodes, Bool.and_eq_true] at h
      obtain ⟨ha, has⟩ := List.forall_mem_cons.mp ih
      obtain ⟨heq, htame⟩ := ha b h.1
      obtain ⟨heqs, htames⟩ := hrest has h.2
      exact ⟨by rw [mapLeavesOf, mapLeavesOf, heq, heqs], List.forall_mem_cons.mpr ⟨htame, htames⟩⟩

theorem matches_option {o p : Option Query}
    (ih : ∀ a ∈ o.toList, ∀ b, a.same b = true → a.Matches b) (h : sameOption o p = true) :
    mapLeavesOption essence o = mapLeavesOption essence p ∧ ∀ a ∈ o.toList, a.IsTame := by
  cases o with
  | none =>
    cases p with
    | none => exact ⟨rfl, by simp⟩
    | some b => simp [sameOption] at h
  | some a =>
    cases p with
    | none => simp [sameOption] at h
    | some b =>
      rw [sameOption] at h
      obtain ⟨heq, htame⟩ := ih a (by simp) b h
      exact ⟨by rw [mapLeavesOption, mapLeavesOption, heq], by simpa using htame⟩

theorem matches_joins {js ks : List (Join Caster Value)}
    (ih : ∀ a ∈ js.flatMap Join.children, ∀ b, a.same b = true → a.Matches b)
    (h : sameJoins js ks = true) :
    mapLeavesJoins essence js = mapLeavesJoins essence ks ∧
      ∀ a ∈ js.flatMap Join.children, a.IsTame := by
  induction js generalizing ks with
  | nil =>
    cases ks with
    | nil => exact ⟨rfl, by simp⟩
    | cons k ks => simp [sameJoins] at h
  | cons j js hrest =>
    cases ks with
    | nil => simp [sameJoins] at h
    | cons k ks =>
      obtain ⟨kind, relation, on⟩ := j
      obtain ⟨kind', relation', on'⟩ := k
      simp only [sameJoins, Join.same, Bool.and_eq_true, beq_iff_eq] at h
      obtain ⟨⟨⟨rfl, hrelation⟩, hon⟩, hjoins⟩ := h
      rw [List.flatMap_cons, List.forall_mem_append] at ih
      obtain ⟨ihjoin, ihjoins⟩ := ih
      obtain ⟨ihrelation, ihon⟩ := List.forall_mem_cons.mp ihjoin
      obtain ⟨heq, htame⟩ := ihrelation relation' hrelation
      obtain ⟨heqOn, htameOn⟩ := matches_option ihon hon
      obtain ⟨heqs, htames⟩ := hrest ihjoins hjoins
      refine ⟨by rw [mapLeavesJoins, mapLeavesJoins, heq, heqOn, heqs], ?_⟩
      rw [List.flatMap_cons, List.forall_mem_append]
      exact ⟨List.forall_mem_cons.mpr ⟨htame, htameOn⟩, htames⟩

theorem matches_select {s t : Select Caster Value}
    (ih : ∀ a ∈ s.children, ∀ b, a.same b = true → a.Matches b) (h : s.same t = true) :
    s.mapLeaves essence = t.mapLeaves essence ∧ ∀ a ∈ s.children, a.IsTame := by
  obtain ⟨distinct, projections, source, js, wheres, groups, havings, orders, limit, offset⟩ := s
  obtain ⟨distinct', projections', source', js', wheres', groups', havings', orders', limit',
    offset'⟩ := t
  simp only [Select.same, Bool.and_eq_true] at h
  simp only [Select.children, List.forall_mem_append] at ih ⊢
  obtain ⟨⟨⟨⟨⟨⟨⟨⟨⟨hd, hp⟩, hf⟩, hj⟩, hw⟩, hg⟩, hh⟩, ho⟩, hl⟩, hof⟩ := h
  obtain ⟨ihd, ihp, ihf, ihj, ihw, ihg, ihh, iho, ihl, ihof⟩ := ih
  obtain ⟨hd, td⟩ := matches_option ihd hd
  obtain ⟨hp, tp⟩ := matches_nodes ihp hp
  obtain ⟨hf, tf⟩ := matches_option ihf hf
  obtain ⟨hj, tj⟩ := matches_joins ihj hj
  obtain ⟨hw, tw⟩ := matches_nodes ihw hw
  obtain ⟨hg, tg⟩ := matches_nodes ihg hg
  obtain ⟨hh, th⟩ := matches_nodes ihh hh
  obtain ⟨ho, tor⟩ := matches_nodes iho ho
  obtain ⟨hl, tl⟩ := matches_option ihl hl
  obtain ⟨hof, tof⟩ := matches_option ihof hof
  refine ⟨?_, td, tp, tf, tj, tw, tg, th, tor, tl, tof⟩
  simp only [Select.mapLeaves, hd, hp, hf, hj, hw, hg, hh, ho, hl, hof]

end Node

/-! ## Equal leaves -/

theorem Column.rename_eq_of_same {a b : Column Caster} (h : a.same b = true) :
    ({ a with type := TypeMap.named a.type.sqlType } : Column Caster) =
      { b with type := TypeMap.named b.type.sqlType } := by
  simp only [Column.same, Bool.and_eq_true, beq_iff_eq] at h
  obtain ⟨⟨htable, hname⟩, htype⟩ := h
  rw [htable, hname, htype]

namespace Node

/-- Equal trees have one essence, and nothing that is equal to anything holds a NaN. -/
theorem matches_of_same {a b : Query} (h : a.same b = true) : a.Matches b := by
  induction a using children_induction generalizing b with
  | step a ih =>
    cases equalParts_of_same h with
    | sql s => exact ⟨rfl, isTame_of_children trivial (by simp [children])⟩
    | star => exact ⟨rfl, isTame_of_children trivial (by simp [children])⟩
    | distinct => exact ⟨rfl, isTame_of_children trivial (by simp [children])⟩
    | table t => exact ⟨rfl, isTame_of_children trivial (by simp [children])⟩
    | column hcolumn =>
      refine ⟨?_, isTame_of_children trivial (by simp [children])⟩
      simp only [mapLeaves, essence, rename, Column.rename_eq_of_same hcolumn]
    | quoted hvalue =>
      refine ⟨?_, isTame_of_children trivial (by simp [children])⟩
      simp only [mapLeaves, essence, rename, unsignLeaf, ((Value.same_iff _ _).mp hvalue).2,
        if_true]
    | casted hvalue hcolumn =>
      refine ⟨?_, isTame_of_children trivial (by simp [children])⟩
      simp only [mapLeaves, essence, rename, unsignLeaf, Column.rename_eq_of_same hcolumn,
        ((Value.same_iff _ _).mp hvalue).2, Bool.true_or, if_true]
    | bind hbind =>
      simp only [Bind.same, Bool.and_eq_true, beq_iff_eq] at hbind
      obtain ⟨⟨hname, hvalue⟩, htype⟩ := hbind
      obtain ⟨htame, hvalue⟩ := (Value.same_iff _ _).mp hvalue
      refine ⟨?_, isTame_of_children htame (by simp [children])⟩
      simp only [mapLeaves, essence, rename, unsignLeaf, Bind.unsign, hname, hvalue, htype]
    | inList hlist =>
      simp only [InList.same, Bool.and_eq_true, beq_iff_eq] at hlist
      obtain ⟨⟨hcolumn, hvalues⟩, hpolarity⟩ := hlist
      obtain ⟨htame, hvalues⟩ := (Value.sameItems_iff _ _).mp hvalues
      refine ⟨?_, isTame_of_children (Value.sameItems_self.mp htame) (by simp [children])⟩
      simp only [mapLeaves, essence, rename, unsignLeaf, Column.rename_eq_of_same hcolumn, hvalues,
        hpolarity]
    | @list as bs hnodes =>
      obtain ⟨heq, htame⟩ := @matches_nodes as bs (fun c hc _ => ih c hc) hnodes
      exact ⟨by rw [mapLeaves, mapLeaves, heq], isTame_of_children trivial htame⟩
    | @and as bs hnodes =>
      obtain ⟨heq, htame⟩ := @matches_nodes as bs (fun c hc _ => ih c hc) hnodes
      exact ⟨by rw [mapLeaves, mapLeaves, heq], isTame_of_children trivial htame⟩
    | @call name distinct altName as bs hnodes =>
      obtain ⟨heq, htame⟩ := @matches_nodes as bs (fun c hc _ => ih c hc) hnodes
      exact ⟨by rw [mapLeaves, mapLeaves, heq], isTame_of_children trivial htame⟩
    | select hselect =>
      obtain ⟨heq, htame⟩ := matches_select (fun c hc _ => ih c hc) hselect
      exact ⟨by rw [mapLeaves, mapLeaves, heq], isTame_of_children trivial htame⟩
    | unary op he =>
      obtain ⟨heq, htame⟩ := ih _ (by simp [children]) he
      exact ⟨by rw [mapLeaves, mapLeaves, heq],
        isTame_of_children trivial (by simpa [children] using htame)⟩
    | tableAlias name he =>
      obtain ⟨heq, htame⟩ := ih _ (by simp [children]) he
      exact ⟨by rw [mapLeaves, mapLeaves, heq],
        isTame_of_children trivial (by simpa [children] using htame)⟩
    | binary op hl hr =>
      obtain ⟨heql, htamel⟩ := ih _ (by simp [children]) hl
      obtain ⟨heqr, htamer⟩ := ih _ (by simp [children]) hr
      exact ⟨by rw [mapLeaves, mapLeaves, heql, heqr],
        isTame_of_children trivial (by simpa [children] using ⟨htamel, htamer⟩)⟩
    | regexp negated caseSensitive hl hr =>
      obtain ⟨heql, htamel⟩ := ih _ (by simp [children]) hl
      obtain ⟨heqr, htamer⟩ := ih _ (by simp [children]) hr
      exact ⟨by rw [mapLeaves, mapLeaves, heql, heqr],
        isTame_of_children trivial (by simpa [children] using ⟨htamel, htamer⟩)⟩
    | between he hlow hhigh =>
      obtain ⟨heq, htame⟩ := ih _ (by simp [children]) he
      obtain ⟨heql, htamel⟩ := ih _ (by simp [children]) hlow
      obtain ⟨heqh, htameh⟩ := ih _ (by simp [children]) hhigh
      exact ⟨by rw [mapLeaves, mapLeaves, heq, heql, heqh],
        isTame_of_children trivial (by simpa [children] using ⟨htame, htamel, htameh⟩)⟩
    | like negated caseSensitive hl hr hescape =>
      obtain ⟨heql, htamel⟩ := ih _ (by simp [children]) hl
      obtain ⟨heqr, htamer⟩ := ih _ (by simp [children]) hr
      obtain ⟨heqe, htamee⟩ := matches_option
        (fun c hc _ => ih c (by simp only [children, List.mem_cons]; exact .inr (.inr hc))) hescape
      refine ⟨by rw [mapLeaves, mapLeaves, heql, heqr, heqe], isTame_of_children trivial ?_⟩
      exact List.forall_mem_cons.mpr ⟨htamel, List.forall_mem_cons.mpr ⟨htamer, htamee⟩⟩

end Node

/-! ## Trees that have been read -/

namespace Document

open Node

mutual
/-- A tree with the casters of names has the column types that their names stand for. -/
theorem mapLeaves_rename_withCasters : ∀ doc : Document,
    (doc.withCasters TypeMap.named).mapLeaves rename = doc.withCasters TypeMap.named
  | .list items => by rw [withCasters, mapLeaves, mapLeavesOf_rename_withCasters items]
  | .and operands => by rw [withCasters, mapLeaves, mapLeavesOf_rename_withCasters operands]
  | .unary _ e => by rw [withCasters, mapLeaves, mapLeaves_rename_withCasters e]
  | .binary _ l r => by
    rw [withCasters, mapLeaves, mapLeaves_rename_withCasters l, mapLeaves_rename_withCasters r]
  | .tableAlias relation _ => by
    rw [withCasters, mapLeaves, mapLeaves_rename_withCasters relation]
  | .between e low high => by
    rw [withCasters, mapLeaves, mapLeaves_rename_withCasters e, mapLeaves_rename_withCasters low,
      mapLeaves_rename_withCasters high]
  | .like _ l r escape _ => by
    rw [withCasters, mapLeaves, mapLeaves_rename_withCasters l, mapLeaves_rename_withCasters r,
      mapLeavesOption_rename_withCasters escape]
  | .regexp _ l r _ => by
    rw [withCasters, mapLeaves, mapLeaves_rename_withCasters l, mapLeaves_rename_withCasters r]
  | .call _ args _ _ => by rw [withCasters, mapLeaves, mapLeavesOf_rename_withCasters args]
  | .select s => by rw [withCasters, mapLeaves, select_mapLeaves_rename_withCasters s]
  | .column _ | .casted _ _ | .bind _ | .inList _ => by
    simp only [withCasters, mapLeaves, rename, Column.withCaster, TypeMap.named_sqlType]
  | .sql _ | .star | .distinct | .table _ | .quoted _ => rfl

theorem mapLeavesOf_rename_withCasters : ∀ docs : List Document,
    mapLeavesOf rename (withCastersOf TypeMap.named docs) = withCastersOf TypeMap.named docs
  | [] => rfl
  | doc :: docs => by
    rw [withCastersOf, mapLeavesOf, mapLeaves_rename_withCasters doc,
      mapLeavesOf_rename_withCasters docs]

theorem mapLeavesOption_rename_withCasters : ∀ o : Option Document,
    mapLeavesOption rename (withCastersOption TypeMap.named o) = withCastersOption TypeMap.named o
  | none => rfl
  | some doc => by rw [withCastersOption, mapLeavesOption, mapLeaves_rename_withCasters doc]

theorem mapLeavesJoins_rename_withCasters : ∀ js : List (Join String Json),
    mapLeavesJoins rename (withCastersJoins TypeMap.named js) = withCastersJoins TypeMap.named js
  | [] => rfl
  | ⟨_, relation, on⟩ :: js => by
    rw [withCastersJoins, mapLeavesJoins, mapLeaves_rename_withCasters relation,
      mapLeavesOption_rename_withCasters on, mapLeavesJoins_rename_withCasters js]

theorem select_mapLeaves_rename_withCasters : ∀ s : Select String Json,
    (withCastersSelect TypeMap.named s).mapLeaves rename = withCastersSelect TypeMap.named s
  | ⟨unique, projections, source, js, wheres, groups, havings, orders, limit, offset⟩ => by
    rw [withCastersSelect, Select.mapLeaves, mapLeavesOption_rename_withCasters unique,
      mapLeavesOf_rename_withCasters projections, mapLeavesOption_rename_withCasters source,
      mapLeavesJoins_rename_withCasters js, mapLeavesOf_rename_withCasters wheres,
      mapLeavesOf_rename_withCasters groups, mapLeavesOf_rename_withCasters havings,
      mapLeavesOf_rename_withCasters orders, mapLeavesOption_rename_withCasters limit,
      mapLeavesOption_rename_withCasters offset]
end

theorem withCasters_of_toQuery {doc : Document} {q : Query} (h : doc.toQuery .postgres = .ok q) :
    q = doc.withCasters TypeMap.named := by
  cases hfault : doc.mentions.findSome? (·.fault? .postgres) with
  | some e =>
    rw [toQuery_of_fault hfault] at h
    cases h
  | none =>
    rw [toQuery_of_agrees (agrees_lookup hfault)] at h
    exact (Except.ok.inj h).symm

end Document

/-- A tree that has been read has the column types that their names stand for. -/
theorem Query.mapLeaves_rename_of_read {text : String} {q : Query}
    (h : Query.read .postgres text = .ok q) : q.mapLeaves Node.rename = q := by
  unfold Query.read at h
  split at h
  · cases h
  · rename_i doc _
    rw [Document.withCasters_of_toQuery h]
    exact doc.mapLeaves_rename_withCasters

end SqlTree
