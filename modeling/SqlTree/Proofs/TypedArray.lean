-- Tests against a list of values that is sent as one array. A scalar column is sent exactly its
-- candidates, each cast once. An array column is sent its candidates only if they hold nothing but
-- texts and nulls.
import SqlTree.Proofs.ArrayCasting
import SqlTree.Proofs.ArrayReader
import SqlTree.Proofs.BindOrder
import SqlTree.Proofs.Candidates

namespace SqlTree

/-! ## The statement -/

/-- A column as a statement spells it. -/
def Column.sql (d : Dialect) (c : Column Caster) : String :=
  Piece.weave [] (Render.column d c).pieces

/-- What stands after the column in a test against an array. -/
def Polarity.arrayTest : Polarity → String
  | isIn => " = any($1)"
  | notIn => " != all($1)"

/-- The bind of a test against an array of these values. -/
def InList.arrayBind (m : InList Caster Value) (vs : List Value) : Bind Caster Value :=
  { name := m.column.name, value := .array vs, type := .array m.column.type ',' }

theorem Render.binds_column (d : Dialect) (c : Column Caster) :
    Piece.binds (Render.column d c).pieces = [] :=
  Rendering.hasBinds_addsUp.column c (Render.column_goes_through d c).1

namespace Node

theorem compile_column (d : Dialect) (c : Column Caster) :
    (column c : Query).compile d = .ok { sql := c.sql d, binds := [], preparable := true } := by
  obtain ⟨herror, hvalue⟩ := Render.column_goes_through d c
  have hrender : (column c : Query).render d = Render.column d c := rfl
  rw [compile_eq_ok, hrender, hvalue, Render.binds_column]
  exact ⟨herror, rfl⟩

/-- A column has no binds, so all placeholders stand after it. -/
theorem compile_after_column {d : Dialect} {n : Query} {c : Column Caster} {ps : List Piece}
    {perValue : Bool} (h : n.render d = ⟨(Render.column d c).pieces ++ ps, perValue, none⟩) :
    n.compile d = .ok
      { sql := c.sql d ++
          Piece.weave ((List.range' 1 (Piece.binds ps).length).map d.placeholder) ps
        binds := Piece.binds ps
        preparable := !perValue } := by
  have hcolumn := Render.binds_column d c
  have hbinds : Piece.binds ((Render.column d c).pieces ++ ps) = Piece.binds ps := by
    rw [Piece.binds_append, hcolumn, List.nil_append]
  have hweave := Piece.weave_append []
    ((List.range' 1 (Piece.binds ps).length).map d.placeholder) (Render.column d c).pieces ps
    (by rw [hcolumn]; rfl)
  rw [compile_eq_ok, h, hbinds]
  refine ⟨rfl, ?_⟩
  congr 1
  exact hweave.symm

theorem render_arrayInList {m : InList Caster Value} (h : m.isPerValue .postgres = false) :
    (inList m).render .postgres = Render.arrayInList .postgres m := by
  have hrender : (inList m).render .postgres = Render.inList .postgres .postgres m := rfl
  rw [hrender, Render.inList_eq, h]
  rfl

theorem compile_arrayInList_of_error {m : InList Caster Value} {e : CastError}
    (hm : m.isPerValue .postgres = false) (h : m.candidates = .error e) :
    (inList m).compile .postgres = .error (.cast e) := by
  rw [compile_eq_error, render_arrayInList hm]
  unfold Render.arrayInList
  rw [h, Rendering.append_of_ok (Render.column_goes_through _ _).1]
  rfl

theorem compile_arrayInList {m : InList Caster Value} {vs : List Value}
    (hm : m.isPerValue .postgres = false) (h : m.candidates = .ok vs) :
    (inList m).compile .postgres = .ok
      { sql := m.column.sql .postgres ++ m.polarity.arrayTest
        binds := [m.arrayBind vs]
        preparable := true } := by
  obtain ⟨herror, hvalue⟩ := Render.column_goes_through .postgres m.column
  obtain ⟨op, hop, hrender⟩ : ∃ op, op ++ "$1)" = m.polarity.arrayTest ∧
      (inList m).render .postgres =
        ⟨(Render.column .postgres m.column).pieces ++
          [.text op, .bind (m.arrayBind vs), .text ")"], false, none⟩ := by
    rw [render_arrayInList hm]
    unfold Render.arrayInList
    rw [h, Rendering.append_of_ok herror, hvalue]
    cases m.polarity with
    | isIn => exact ⟨" = any(", rfl, rfl⟩
    | notIn => exact ⟨" != all(", rfl, rfl⟩
  rw [compile_after_column hrender, ← hop]
  rfl

theorem values_of_arrayInList {m : InList Caster Value} {vs : List Value} {s : Statement}
    (hm : m.isPerValue .postgres = false) (h : m.candidates = .ok vs)
    (hs : (inList m).compile .postgres = .ok s) :
    s.values = (m.arrayBind vs).serialize.map fun v => [v] := by
  rw [compile_arrayInList hm h] at hs
  cases hs
  rw [Statement.values, List.mapM_cons]
  cases (m.arrayBind vs).serialize <;> rfl

end Node

/-! ## Scalar columns -/

namespace Value

theorem exists_toText {v : Value} (hnull : v.isNull = false) (harray : ∀ items, v ≠ .array items) :
    ∃ text, v.toText? = some text := by
  cases v with
  | null => cases hnull
  | array items => exact absurd rfl (harray items)
  | _ => exact ⟨_, rfl⟩

theorem element_of_toText {v : Value} {text : String} (h : v.toText? = some text) :
    v.element = .text text := by
  cases v with
  | null => cases h
  | array items => cases h
  | _ => simp_all [element]

/-- Values that all have a text are shown by their texts. -/
theorem exists_texts {vs : List Value} (h : ∀ v ∈ vs, ∃ text, v.toText? = some text) :
    ∃ texts, vs.mapM toText? = some texts ∧ elements vs = texts.map .text := by
  induction vs with
  | nil => exact ⟨[], rfl, rfl⟩
  | cons v vs ih =>
    obtain ⟨text, htext⟩ := h v List.mem_cons_self
    obtain ⟨texts, htexts, helements⟩ := ih fun x hx => h x (List.mem_cons_of_mem v hx)
    refine ⟨text :: texts, ?_, ?_⟩
    · simp [List.mapM_cons, htext, htexts]
    · rw [elements, element_of_toText htext, helements, List.map_cons]

end Value

namespace InList

variable {m : InList Caster Value} {vs : List Value}

theorem arrayBind_serialize (m : InList Caster Value) (vs : List Value) :
    (m.arrayBind vs).serialize = (Caster.castItems m.column.type.serialize vs).map
      fun ws => .text (ArrayLiteral.encode ',' ws) :=
  Caster.serialize_array m.column.type ',' vs

theorem isPerValue_eq_false (hbinary : m.column.type.kind ≠ .binary)
    (hjson : m.column.type.kind ≠ .json) : m.isPerValue .postgres = false := by
  simp [isPerValue, hbinary, hjson]

/-- The array bind of a scalar column holds the texts of the values that the candidates are cast
to. -/
theorem arrayBind_of_scalar {ws : List Value} (hscalar : m.column.type.kind = .scalar)
    (h : m.candidates = .ok vs) (hws : vs.mapM m.column.type.serialize = .ok ws) :
    ∃ texts literal, ws.mapM Value.toText? = some texts ∧
      (m.arrayBind vs).serialize = .ok (.text literal) ∧
      ArrayLiteral.read? ',' literal = some (texts.map .text) := by
  have htext : ∀ w ∈ ws, ∃ text, w.toText? = some text := by
    intro w hw
    obtain ⟨hnull, v, hvw⟩ := casted_of_candidates h hws w hw
    exact Value.exists_toText hnull (Caster.ne_array_of_serialize hvw)
  obtain ⟨texts, htexts, helements⟩ := Value.exists_texts htext
  refine ⟨texts, ArrayLiteral.encode ',' ws, htexts, ?_, ?_⟩
  -- No candidate is an array, so casting the leaves casts the candidates themselves.
  · have hitems : Caster.castItems m.column.type.serialize vs = .ok ws := by
      rw [Caster.castItems_eq_mapM fun v hv => candidate_ne_array hscalar h hv, hws]
    rw [arrayBind_serialize, hitems]
    rfl
  · rw [← helements]
    exact ArrayLiteral.read?_braced (ArrayLiteral.reads_items (by decide) (by decide) ws)

end InList

/-- A test of a scalar column against a list of values compiles whenever its candidates can be
told. The statement has one bind however many values there are, and what the column receives for it
is the literal of an array of the candidates, each cast once, without a null among them. -/
theorem Node.one_array_holds_the_candidates (m : InList Caster Value)
    (hscalar : m.column.type.kind = .scalar) :
    ((∃ s, (inList m).compile .postgres = .ok s) ↔ ∃ vs, m.candidates = .ok vs) ∧
    (∀ e, m.candidates = .error e → (inList m).compile .postgres = .error (.cast e)) ∧
    (∀ s, (inList m).compile .postgres = .ok s →
      ∃ column b literal ws texts,
        (Node.column m.column : Query).compile .postgres = .ok column ∧
        s.sql = column.sql ++ m.polarity.arrayTest ∧
        s.binds = [b] ∧ b.serialize = .ok (.text literal) ∧
        m.castedValues = .ok ws ∧ ws.mapM Value.toText? = some texts ∧
        ArrayLiteral.read? ',' literal = some (texts.map .text)) := by
  have hm : m.isPerValue .postgres = false :=
    InList.isPerValue_eq_false (by simp [hscalar]) (by simp [hscalar])
  cases h : m.candidates with
  | error e =>
    have hcompile := compile_arrayInList_of_error hm h
    refine ⟨by simp [hcompile], ?_, by simp [hcompile]⟩
    intro e' he
    cases he
    exact hcompile
  | ok vs =>
    have hcompile := compile_arrayInList hm h
    refine ⟨by simp [hcompile], by simp, ?_⟩
    intro s hs
    rw [hcompile] at hs
    cases hs
    obtain ⟨ws, hws, hcasted⟩ := InList.castedValues_of_candidates h
    obtain ⟨texts, literal, htexts, hserialize, hread⟩ :=
      InList.arrayBind_of_scalar hscalar h hws
    exact ⟨_, _, literal, ws, texts, compile_column .postgres m.column, rfl, rfl, hserialize,
      hcasted, htexts, hread⟩

/-- Nulls and a number out of range are dropped from two lists, and a list with a word among its
numbers does not compile. -/
theorem Node.one_array_holds_the_candidates_of_three_lists :
    let tags : Column Caster := ⟨some "notes", "tags", .text⟩
    let size : Column Caster := ⟨none, "size", .ofBytes 2⟩
    let ofTags : InList Caster Value :=
      ⟨tags, [.text "a,b", .null, .text "null", .integer 7, .text ""], .notIn⟩
    let ofSize : InList Caster Value := ⟨size, [.integer 40000, .text " 7 ", .null], .isIn⟩
    let bad : InList Caster Value := ⟨size, [.integer 40000, .text "many"], .isIn⟩
    tags.type.kind = .scalar ∧ size.type.kind = .scalar ∧
    (∃ s b literal, (inList ofTags).compile .postgres = .ok s ∧
      s.sql = "\"notes\".\"tags\" != all($1)" ∧ s.binds = [b] ∧
      b.serialize = .ok (.text literal) ∧
      ArrayLiteral.read? ',' literal
        = some [.text "a,b", .text "null", .text "7", .text ""]) ∧
    (∃ s b literal, (inList ofSize).compile .postgres = .ok s ∧
      s.sql = "\"size\" = any($1)" ∧ s.binds = [b] ∧ b.serialize = .ok (.text literal) ∧
      ArrayLiteral.read? ',' literal = some [.text "7"]) ∧
    (inList bad).compile .postgres = .error (.cast (.invalid (.text "many") "smallint")) := by
  intro tags size ofTags ofSize bad
  refine ⟨rfl, rfl, ?_, ?_, ?_⟩
  · obtain ⟨column, b, literal, ws, texts, hcolumn, hsql, hbinds, hb, hws, htexts, hread⟩ :=
      (one_array_holds_the_candidates ofTags rfl).2.2 _ rfl
    cases hcolumn
    cases hws
    cases htexts
    exact ⟨_, b, literal, rfl, hsql.trans (by decide), hbinds, hb, hread⟩
  · obtain ⟨column, b, literal, ws, texts, hcolumn, hsql, hbinds, hb, hws, htexts, hread⟩ :=
      (one_array_holds_the_candidates ofSize rfl).2.2 _ rfl
    cases hcolumn
    cases hws
    cases htexts
    exact ⟨_, b, literal, rfl, hsql.trans (by decide), hbinds, hb, hread⟩
  · exact (one_array_holds_the_candidates bad rfl).2.1 _ rfl

/-! ## Array columns -/

/-- The values that an array column takes as they are: null and the text of a literal. -/
def Value.isLiteral : Value → Bool
  | null => true
  | text _ => true
  | _ => false

namespace Caster

theorem exists_eq_array {c : Caster} (h : c.kind = .array) :
    ∃ element delimiter, c = .array element delimiter := by
  cases c with
  | array element delimiter => exact ⟨element, delimiter, rfl⟩
  | _ => cases h

theorem serialize_of_isLiteral {c : Caster} (hc : c.kind = .array) {v : Value}
    (h : v.isLiteral = true) : c.serialize v = .ok v := by
  obtain ⟨element, delimiter, rfl⟩ := exists_eq_array hc
  cases v with
  | null => rfl
  | text s => rfl
  | _ => cases h

theorem serialize_of_not_isLiteral {c : Caster} (hc : c.kind = .array) {v : Value}
    (h : v.isLiteral = false) (hv : ∀ items, v ≠ .array items) :
    c.serialize v = .error (.invalid v c.sqlType) := by
  obtain ⟨element, delimiter, rfl⟩ := exists_eq_array hc
  cases v with
  | null => cases h
  | text s => cases h
  | array items => exact absurd rfl (hv items)
  | _ => rfl

end Caster

/-- The first element that has a property is where a traversal ends that fails exactly on the
elements with the property. -/
theorem mapM_eq_error_of_find? {α β ε : Type} {f : α → Except ε β} {p : α → Bool} {xs : List α}
    {x : α} {e : ε} (hok : ∀ y ∈ xs, p y = false → ∃ z, f y = .ok z) (hx : f x = .error e)
    (h : xs.find? p = some x) : xs.mapM f = .error e := by
  induction xs with
  | nil => cases h
  | cons y ys ih =>
    rw [mapM_cons_eq_error]
    cases hp : p y with
    | true =>
      rw [List.find?_cons_of_pos hp] at h
      cases h
      exact .inl hx
    | false =>
      rw [List.find?_cons_of_neg (by simp [hp])] at h
      obtain ⟨z, hz⟩ := hok y List.mem_cons_self hp
      exact .inr ⟨z, hz, ih (fun y' hy' => hok y' (List.mem_cons_of_mem y hy')) h⟩

namespace InList

variable {m : InList Caster Value} {vs : List Value}

/-- If the candidates hold nothing but texts and nulls, they are sent as they are. -/
theorem arrayBind_of_literals (harray : m.column.type.kind = .array)
    (h : ∀ leaf ∈ Value.leavesOf vs, leaf.isLiteral = true) :
    (m.arrayBind vs).serialize = .ok (.text (ArrayLiteral.encode ',' vs)) := by
  have hitems : Caster.castItems m.column.type.serialize vs = .ok vs := by
    apply Caster.castItems_eq_self
    intro leaf hleaf
    exact Caster.serialize_of_isLiteral harray (h leaf hleaf)
  rw [arrayBind_serialize, hitems]
  rfl

/-- Anything else in a candidate is taken for an array of its own, and refused. -/
theorem arrayBind_of_leaf (harray : m.column.type.kind = .array) {leaf : Value}
    (h : (Value.leavesOf vs).find? (!·.isLiteral) = some leaf) :
    (m.arrayBind vs).serialize = .error (.invalid leaf m.column.type.sqlType) := by
  have hliteral : leaf.isLiteral = false := by simpa using List.find?_some h
  obtain ⟨v, -, hleaf⟩ := Value.mem_leavesOf.mp (List.mem_of_find?_eq_some h)
  have hrefused := Caster.serialize_of_not_isLiteral harray hliteral
    (Value.ne_array_of_mem_leaves hleaf)
  have hitems : Caster.castItems m.column.type.serialize vs
      = .error (.invalid leaf m.column.type.sqlType) := by
    apply Caster.castItems_eq_error.mpr
    refine mapM_eq_error_of_find? (fun y _ hy => ⟨y, ?_⟩) hrefused h
    exact Caster.serialize_of_isLiteral harray (by simpa using hy)
  rw [arrayBind_serialize, hitems]
  rfl

end InList

/-- A test of an array column compiles whenever its candidates can be told. The column then
receives them if there are only texts and nulls in them, at any depth. The first other leaf is
refused, although the column itself takes the candidate that it lies in. -/
theorem Node.array_columns_are_sent_literals_only (m : InList Caster Value) (vs : List Value)
    (harray : m.column.type.kind = .array) (h : m.candidates = .ok vs) :
    ∃ s, (inList m).compile .postgres = .ok s ∧
      ((∀ leaf ∈ Value.leavesOf vs, leaf.isLiteral = true) →
        s.values = .ok [.text (ArrayLiteral.encode ',' vs)] ∧
        ∃ sql, (inList m).toSql .postgres = .ok sql) ∧
      (∀ leaf, (Value.leavesOf vs).find? (!·.isLiteral) = some leaf →
        s.values = .error (.invalid leaf m.column.type.sqlType) ∧
        (inList m).toSql .postgres
          = .error (.cast (.invalid leaf m.column.type.sqlType))) := by
  have hm : m.isPerValue .postgres = false :=
    InList.isPerValue_eq_false (by simp [harray]) (by simp [harray])
  have hcompile := compile_arrayInList hm h
  have hvalues := values_of_arrayInList hm h hcompile
  obtain ⟨hrender, hs⟩ := compile_eq_ok.mp hcompile
  refine ⟨_, hcompile, ?_, ?_⟩
  · intro hleaves
    rw [InList.arrayBind_of_literals harray hleaves] at hvalues
    rw [hs] at hvalues ⊢
    exact ⟨hvalues, _, toSql_of_values hrender hvalues⟩
  · intro leaf hleaf
    rw [InList.arrayBind_of_leaf harray hleaf] at hvalues
    rw [hs] at hvalues ⊢
    exact ⟨hvalues, toSql_of_cast_error hvalues⟩

/-- An array of texts with a null in it and a literal are sent as they are. The truth value, which
is the first leaf of another kind, is refused. -/
theorem Node.array_columns_are_sent_literals_only_of_two :
    let tags : Column Caster := ⟨none, "tags", .array .text ','⟩
    let literals : List Value := [.array [.text "a", .null], .text "\x7bb\x7d"]
    let mixed : List Value := [.array [.text "a"], .array [.array [.bool true], .integer 7]]
    tags.type.kind = .array ∧
    (⟨tags, .null :: literals, .isIn⟩ : InList Caster Value).candidates = .ok literals ∧
    (⟨tags, mixed, .notIn⟩ : InList Caster Value).candidates = .ok mixed ∧
    (∃ sql, (inList ⟨tags, .null :: literals, .isIn⟩).toSql .postgres = .ok sql) ∧
    (inList ⟨tags, mixed, .notIn⟩).toSql .postgres
      = .error (.cast (.invalid (.bool true) "text[]")) := by
  intro tags literals mixed
  refine ⟨rfl, rfl, rfl, ?_, ?_⟩
  · obtain ⟨s, -, hliterals, -⟩ :=
      array_columns_are_sent_literals_only ⟨tags, .null :: literals, .isIn⟩ literals rfl rfl
    exact (hliterals (by decide)).2
  · obtain ⟨s, -, -, hleaf⟩ :=
      array_columns_are_sent_literals_only ⟨tags, mixed, .notIn⟩ mixed rfl rfl
    exact (hleaf (.bool true) rfl).2

/-- The column takes an array of two integers, the test compiles, and its bind is refused. -/
theorem Node.candidates_of_an_array_column_are_refused :
    let scores : Column Caster := ⟨none, "scores", .array (.ofBytes 4) ','⟩
    let pair : Value := .array [.integer 1, .integer 2]
    let m : InList Caster Value := ⟨scores, [pair], .isIn⟩
    scores.type.serialize pair = .ok (.text "\x7b1,2\x7d") ∧ m.candidates = .ok [pair] ∧
    ∃ s, (inList m).compile .postgres = .ok s ∧
      s.values = .error (.invalid (.integer 1) "integer[]") ∧
      (inList m).toSql .postgres = .error (.cast (.invalid (.integer 1) "integer[]")) :=
  ⟨rfl, rfl, _, rfl, rfl, rfl⟩

end SqlTree
