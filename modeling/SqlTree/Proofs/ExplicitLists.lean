-- A test that binds its values one by one is the test against the explicit list of these binds. The
-- one may stand for the other wherever a tree has it.
import SqlTree.Proofs.Congruence
import SqlTree.Proofs.Membership

namespace SqlTree

/-! ## Trees with places left open -/

namespace Node

/-- A leaf, or this tree if the leaf is the raw text that marks an open place. -/
def fillLeaf (mark : String) (inner : Query) : Query → Query
  | .sql s => if s = mark then inner else .sql s
  | leaf => leaf

/-- A tree with another one in its open places, which are those where the mark stands as raw text.
Any text may be the mark, so any places in a tree can be left open. -/
def fill (outer : Query) (mark : String) (inner : Query) : Query :=
  outer.mapLeaves (fillLeaf mark inner)

/-- What a tree with open places renders as depends on what is put there by its rendering and its
look alone. -/
theorem render_fill {d : Dialect} {a b : Query} (hlook : b.look = a.look)
    (hrender : a.render d = b.render d) (outer : Query) (mark : String) :
    (outer.fill mark a).render d = (outer.fill mark b).render d := by
  apply Rendering.eq_congruence.twoMapLeaves
  · intro n
    unfold fillLeaf
    split
    · split
      · exact hlook
      · rfl
    · rfl
  · intro n
    unfold fillLeaf
    split
    · split
      · exact hrender
      · rfl
    · rfl

end Node

/-! ## Explicit lists -/

/-- The operator of a test against the elements of a list. -/
def Polarity.elementTest : Polarity → BinaryOp
  | isIn => .isIn
  | notIn => .notIn

/-- The test of the column against the list of these values, each in a bind of its own. -/
def InList.explicit (m : InList Caster Value) (vs : List Value) : Query :=
  .binary m.polarity.elementTest m.column.node (.list (vs.map m.column.bind))

namespace InList

variable {m : InList Caster Value} {vs : List Value}

theorem look_explicit (m : InList Caster Value) (vs : List Value) :
    (m.explicit vs).look = (Node.inList m : Query).look := rfl

theorem render_binds (d : Dialect) (m : InList Caster Value) (vs : List Value) :
    (Node.list (vs.map m.column.bind)).render d = .binds (vs.map m.valueBind) := by
  rw [Node.render_list, Rendering.binds, List.map_map, List.map_map]
  rfl

theorem render_explicit (d : Dialect) (hne : vs ≠ []) :
    (m.explicit vs).render d = .varying ++ (Render.column d m.column ++
      (.text (String.ofList m.polarity.listTest) ++ (m.operands vs ++ .text ")"))) := by
  obtain ⟨v, vs, rfl⟩ := List.exists_cons_of_ne_nil hne
  have hcolumn : (m.column.node : Query).render d = Render.column d m.column := rfl
  unfold explicit operands
  rw [Node.render_binary, render_binds, hcolumn]
  cases m.polarity with
  | isIn => rfl
  | notIn => rfl

/-- If its values are bound one by one, a test with candidates is rendered as the explicit list of
them. -/
theorem render_eq_explicit {d : Dialect} (hd : m.isPerValue d.grammar = true)
    (h : m.candidates = .ok vs) (hne : vs ≠ []) :
    (Node.inList m : Query).render d = (m.explicit vs).render d := by
  have hrender : (Node.inList m : Query).render d = Render.inList d.grammar d m := rfl
  rw [hrender, Render.inList_eq, if_pos hd, render_explicit d hne]
  exact perValueInList_of_candidates d h

end InList

/-! ## The law -/

/-- A test of a column against values has the same statements as the test against the explicit list
of its candidates, if there are any and they are bound one by one: in standard SQL always, and in
every dialect for binary and JSON columns. This holds wherever the test stands in a tree, and where
the tree does not compile, the errors are the same. -/
theorem Node.tests_of_single_values_are_explicit_lists (d : Dialect) (m : InList Caster Value)
    (vs : List Value) (hd : d.grammar = .standard ∨ m.column.type.kind = .binary ∨
      m.column.type.kind = .json) (h : m.candidates = .ok vs) (hne : vs ≠ [])
    (outer : Query) (mark : String) :
    (outer.fill mark (.inList m)).compile d = (outer.fill mark (m.explicit vs)).compile d ∧
      (outer.fill mark (.inList m)).toSql d = (outer.fill mark (m.explicit vs)).toSql d := by
  have hper : m.isPerValue d.grammar = true := by
    unfold InList.isPerValue
    rcases hd with hd | hd | hd <;> simp [hd]
  have hinner := InList.render_eq_explicit hper h hne
  have hrender := render_fill (m.look_explicit vs) hinner outer mark
  rw [compile_eq, compile_eq, toSql_eq, toSql_eq, hrender]
  exact ⟨rfl, rfl⟩

/-- A null is dropped from a list of numbers in standard SQL, and from texts for a binary column in
PostgreSQL, between two binds and beside the same test. -/
theorem Node.tests_of_single_values_are_explicit_lists_of_two :
    let id : Column Caster := ⟨none, "id", .ofBytes 4⟩
    let data : Column Caster := ⟨some "files", "data", .bytea⟩
    let ids : InList Caster Value := ⟨id, [.integer 1, .null, .text " 7 "], .isIn⟩
    let files : InList Caster Value := ⟨data, [.text "a", .null], .notIn⟩
    let outer : Query := .and [id.equals (.integer 3), .unary .not (.sql "?"), .inList ids,
      .inList files, id.equals (.integer 4)]
    let idList : Query :=
      .binary .isIn id.node (.list [id.bind (.integer 1), id.bind (.text " 7 ")])
    let dataList : Query := .binary .notIn data.node (.list [data.bind (.text "a")])
    Dialect.generic.grammar = .standard ∧ ids.candidates = .ok [.integer 1, .text " 7 "] ∧
    data.type.kind = .binary ∧ files.candidates = .ok [.text "a"] ∧
    (outer.fill "?" (.inList ids)).compile .generic = (outer.fill "?" idList).compile .generic ∧
    (∃ s, (outer.fill "?" idList).compile .generic = .ok s ∧ s.binds.length = 7) ∧
    (outer.fill "?" (.inList files)).toSql .postgres
      = (outer.fill "?" dataList).toSql .postgres := by
  intro id data ids files outer idList dataList
  have hids := tests_of_single_values_are_explicit_lists .generic ids [.integer 1, .text " 7 "]
    (.inl rfl) rfl (by simp) outer "?"
  have hfiles := tests_of_single_values_are_explicit_lists .postgres files [.text "a"]
    (.inr (.inl rfl)) rfl (by simp) outer "?"
  exact ⟨rfl, rfl, rfl, rfl, hids.1, ⟨_, rfl, rfl⟩, hfiles.2⟩

end SqlTree
