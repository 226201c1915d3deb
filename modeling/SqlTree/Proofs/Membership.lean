-- What a test against a list of values means for a row. PostgreSQL is sent one array and the
-- standard one value for each placeholder, and the two tests come to the same as long as there is
-- something to compare with.
import SqlTree.Proofs.Truth
import SqlTree.Proofs.TypedArray

namespace SqlTree

/-! ## Comparisons -/

/-- A value in a column, by what it equals. It can be compared with a value that is sent by itself
and with an element of an array, of which the text is sent. -/
structure StoredValue (c : Caster) where
  equalsValue : Value → Bool
  equalsText : String → Bool
  /-- An element of an array is the value of the column type that it is the text of. -/
  agrees : ∀ v w text, c.serialize v = .ok w → w.toText? = some text →
    equalsText text = equalsValue w

namespace StoredValue

variable {c : Caster}

/-- The value of which this is the text. -/
def ofText (c : Caster) (text : String) : StoredValue c where
  equalsValue w := w.toText? == some text
  equalsText t := t == text
  agrees := by
    intro v w t _ ht
    rw [ht]
    rfl

/-- Nothing is known of a comparison with null. -/
def compare (x : StoredValue c) (v : Value) : Truth :=
  if v.isNull then .unknown else .ofBool (x.equalsValue v)

/-- There is no comparison with an array in an array. -/
def compareElement (x : StoredValue c) : Element → Option Truth
  | .null => some .unknown
  | .text text => some (.ofBool (x.equalsText text))
  | .array _ => none

end StoredValue

/-! ## The tests of a statement -/

/-- What stands in a list between commas. -/
inductive Operand where
  | null
  | placeholder
deriving DecidableEq, Repr

/-- A test of a column against values, as a statement has it. -/
inductive MembershipTest where
  /-- `IN (..)` and `NOT IN (..)`. -/
  | list (polarity : Polarity) (operands : List Operand)
  /-- `= any($1)` and `!= all($1)`. -/
  | array (polarity : Polarity)
deriving DecidableEq, Repr

namespace Operand

/-- The operands up to the closing parenthesis, which must end the text. -/
def readAll? : List Char → Option (List Operand)
  | ['?', ')'] => some [placeholder]
  | ['N', 'U', 'L', 'L', ')'] => some [null]
  | '?' :: ',' :: ' ' :: rest => (readAll? rest).map (placeholder :: ·)
  | 'N' :: 'U' :: 'L' :: 'L' :: ',' :: ' ' :: rest => (readAll? rest).map (null :: ·)
  | _ => none

/-- The values of operands: each placeholder takes the next argument, and all are taken. -/
def values? : List Operand → List Value → Option (List Value)
  | [], [] => some []
  | null :: rest, args => (values? rest args).map (.null :: ·)
  | placeholder :: rest, v :: args => (values? rest args).map (v :: ·)
  | _, _ => none

end Operand

namespace MembershipTest

/-- The test that stands after a column. -/
def readChars? : List Char → Option MembershipTest
  | ' ' :: 'I' :: 'N' :: ' ' :: '(' :: rest => (Operand.readAll? rest).map (list .isIn)
  | ' ' :: 'N' :: 'O' :: 'T' :: ' ' :: 'I' :: 'N' :: ' ' :: '(' :: rest =>
    (Operand.readAll? rest).map (list .notIn)
  | cs =>
    if cs = " = any($1)".toList then some (array .isIn)
    else if cs = " != all($1)".toList then some (array .notIn)
    else none

/-- The test of a column that a whole text is. -/
def read? (column sql : String) : Option MembershipTest :=
  if column.toList.isPrefixOf sql.toList then readChars? (sql.toList.drop column.toList.length)
  else none

/-- What a test comes to for a row with this value in the column. -/
def truth? {c : Caster} (x : StoredValue c) (args : List Value) : MembershipTest → Option Truth
  | list polarity operands => do
    let found := Truth.any ((← Operand.values? operands args).map x.compare)
    return match polarity with
      | .isIn => found
      | .notIn => found.not
  | array polarity => do
    let [.text literal] := args | none
    let comparisons ← (← ArrayLiteral.read? ',' literal).mapM x.compareElement
    return match polarity with
      | .isIn => Truth.any comparisons
      | .notIn => Truth.all (comparisons.map Truth.not)

end MembershipTest

/-- What a statement that is a test of a column comes to for a row with this value there. -/
def Statement.truth? {c : Caster} (s : Statement) (column : String) (x : StoredValue c) :
    Option Truth := do
  let test ← MembershipTest.read? column s.sql
  test.truth? x (← s.values.toOption)

theorem MembershipTest.read?_append (column : String) (cs : List Char) :
    read? column (column ++ String.ofList cs) = readChars? cs := by
  have hprefix : column.toList.isPrefixOf (column.toList ++ cs) = true :=
    List.isPrefixOf_iff_prefix.mpr (List.prefix_append _ _)
  rw [read?, String.toList_append, String.toList_ofList, if_pos hprefix, List.drop_left]

/-! ## Tests against an array -/

namespace InList

variable {m : InList Caster Value} {vs ws : List Value}

/-- Comparing with the texts of values comes to the same as comparing with the values. -/
theorem compareElement_texts (x : StoredValue m.column.type) {texts : List String}
    (hws : ∀ w ∈ ws, w.isNull = false ∧ ∃ v, m.column.type.serialize v = .ok w)
    (htexts : ws.mapM Value.toText? = some texts) :
    (texts.map Element.text).mapM x.compareElement = some (ws.map x.compare) := by
  induction ws generalizing texts with
  | nil =>
    cases htexts
    rfl
  | cons w ws ih =>
    obtain ⟨hnull, v, hv⟩ := hws w List.mem_cons_self
    cases htext : w.toText? with
    | none => simp [List.mapM_cons, htext] at htexts
    | some text =>
      cases hrest : ws.mapM Value.toText? with
      | none => simp [List.mapM_cons, htext, hrest] at htexts
      | some rest =>
        have heq : text :: rest = texts := by
          simpa [List.mapM_cons, htext, hrest] using htexts
        have htail := ih (fun w' hw' => hws w' (List.mem_cons_of_mem w hw')) hrest
        rw [← heq, List.map_cons, List.mapM_cons, htail]
        simp [StoredValue.compareElement, StoredValue.compare, hnull, x.agrees v w text hv htext]

end InList

/-- What a test of a scalar column against an array comes to. -/
theorem Node.truth_of_array {m : InList Caster Value} {vs ws : List Value} {s : Statement}
    (hscalar : m.column.type.kind = .scalar) (h : m.candidates = .ok vs)
    (hws : vs.mapM m.column.type.serialize = .ok ws)
    (hs : (inList m).compile .postgres = .ok s) (x : StoredValue m.column.type) :
    s.truth? (m.column.sql .postgres) x = some (match m.polarity with
      | .isIn => Truth.any (ws.map x.compare)
      | .notIn => Truth.all ((ws.map x.compare).map Truth.not)) := by
  have hm : m.isPerValue .postgres = false :=
    InList.isPerValue_eq_false (by simp [hscalar]) (by simp [hscalar])
  obtain ⟨texts, literal, htexts, hserialize, hread⟩ := InList.arrayBind_of_scalar hscalar h hws
  have hcompare :=
    InList.compareElement_texts x (InList.casted_of_candidates h hws) htexts
  have hvalues : s.values = .ok [.text literal] := by
    rw [values_of_arrayInList hm h hs, hserialize]
    rfl
  have htest : MembershipTest.read? (m.column.sql .postgres) s.sql
      = some (.array m.polarity) := by
    rw [compile_arrayInList hm h] at hs
    cases hs
    cases m.polarity with
    | isIn => exact MembershipTest.read?_append _ " = any($1)".toList
    | notIn => exact MembershipTest.read?_append _ " != all($1)".toList
  simp only [Statement.truth?, htest, hvalues, Except.toOption, MembershipTest.truth?,
    Option.bind_eq_bind, Option.bind_some, hread, hcompare]
  cases m.polarity <;> rfl

/-! ## Tests against a list -/

/-- What stands before the operands of a list. -/
def Polarity.listTest : Polarity → List Char
  | isIn => " IN (".toList
  | notIn => " NOT IN (".toList

/-- What stands in a list of so many values, of none the literal null. -/
def operandChars : Nat → List Char
  | 0 => ['N', 'U', 'L', 'L']
  | 1 => ['?']
  | n + 2 => '?' :: ',' :: ' ' :: operandChars (n + 1)

/-- The bind of one value of a list. -/
def InList.valueBind (m : InList Caster Value) (v : Value) : Bind Caster Value :=
  { name := m.column.name, value := v, type := m.column.type }

/-- The operands of a list of these values. -/
def InList.operands (m : InList Caster Value) : List Value → Rendering
  | [] => .text Value.null.literal
  | v :: vs => .binds ((v :: vs).map m.valueBind)

theorem readAll?_operandChars (n : Nat) :
    Operand.readAll? (operandChars (n + 1) ++ [')'])
      = some (List.replicate (n + 1) .placeholder) := by
  induction n with
  | zero => rfl
  | succ n ih =>
    show (Operand.readAll? (operandChars (n + 1) ++ [')'])).map (.placeholder :: ·) = _
    rw [ih]
    rfl

theorem values?_placeholders (vs : List Value) :
    Operand.values? (List.replicate vs.length .placeholder) vs = some vs := by
  induction vs with
  | nil => rfl
  | cons v vs ih =>
    show (Operand.values? (List.replicate vs.length .placeholder) vs).map (v :: ·) = _
    rw [ih]
    rfl

namespace Rendering

theorem binds_go_through (bs : List (Bind Caster Value)) :
    (binds bs).error = none ∧ (binds bs).perValue = false := by
  induction bs with
  | nil => exact ⟨rfl, rfl⟩
  | cons b bs ih =>
    cases bs with
    | nil => exact ⟨rfl, rfl⟩
    | cons c bs => exact ih

theorem weave_binds (b : Bind Caster Value) (bs : List (Bind Caster Value)) :
    Piece.weave (List.replicate (bs.length + 1) "?") (binds (b :: bs)).pieces
      = String.ofList (operandChars (bs.length + 1)) := by
  induction bs generalizing b with
  | nil => rfl
  | cons c bs ih =>
    show "?" ++ (", " ++
      Piece.weave (List.replicate (bs.length + 1) "?") (binds (c :: bs)).pieces) = _
    rw [ih c, ← String.toList_inj]
    simp [operandChars]

end Rendering

namespace InList

variable {m : InList Caster Value} {vs : List Value}

theorem operands_go_through (m : InList Caster Value) (vs : List Value) :
    (m.operands vs).error = none ∧ (m.operands vs).perValue = false ∧
      Piece.binds (m.operands vs).pieces = vs.map m.valueBind := by
  cases vs with
  | nil => exact ⟨rfl, rfl, rfl⟩
  | cons v vs =>
    obtain ⟨herror, hvalue⟩ := Rendering.binds_go_through ((v :: vs).map m.valueBind)
    exact ⟨herror, hvalue, Rendering.hasBinds_binds _ herror⟩

theorem weave_operands (m : InList Caster Value) (vs : List Value) :
    Piece.weave (List.replicate vs.length "?") (m.operands vs).pieces
      = String.ofList (operandChars vs.length) := by
  cases vs with
  | nil => rfl
  | cons v vs =>
    have hweave := Rendering.weave_binds (m.valueBind v) (vs.map m.valueBind)
    rw [List.length_map] at hweave
    exact hweave

theorem perValueInList_of_candidates (d : Dialect) (h : m.candidates = .ok vs) :
    Render.perValueInList d m = .varying ++ (Render.column d m.column ++
      (.text (String.ofList m.polarity.listTest) ++ (m.operands vs ++ .text ")"))) := by
  unfold Render.perValueInList
  rw [h]
  cases vs with
  | nil => cases m.polarity <;> rfl
  | cons v vs => cases m.polarity <;> rfl

end InList

namespace Node

variable {m : InList Caster Value} {vs : List Value}

theorem compile_list (h : m.candidates = .ok vs) :
    (inList m).compile .generic = .ok
      { sql := m.column.sql .generic ++
          String.ofList (m.polarity.listTest ++ (operandChars vs.length ++ [')']))
        binds := vs.map m.valueBind
        preparable := false } := by
  obtain ⟨hcolumn, -⟩ := Render.column_goes_through .generic m.column
  obtain ⟨herror, -, hbinds⟩ := m.operands_go_through vs
  have hrender : (inList m).render .generic =
      ⟨(Render.column .generic m.column).pieces ++
        (.text (String.ofList m.polarity.listTest) :: ((m.operands vs).pieces ++ [.text ")"])),
        true, none⟩ := by
    show Render.perValueInList .generic m = _
    rw [InList.perValueInList_of_candidates .generic h, Rendering.append_of_ok herror,
      Rendering.append_of_ok hcolumn]
    rfl
  have hall : Piece.binds ((m.operands vs).pieces ++ [.text ")"]) = vs.map m.valueBind := by
    rw [Piece.binds_append, hbinds]
    exact List.append_nil _
  have hfills : (List.range' 1 (vs.map m.valueBind).length).map Dialect.generic.placeholder
      = List.replicate vs.length "?" := by
    show (List.range' 1 (vs.map m.valueBind).length).map (fun _ => "?") = _
    rw [List.map_const', List.length_range', List.length_map]
  have hweave := Piece.weave_append (List.replicate vs.length "?") [] (m.operands vs).pieces
    [.text ")"] (by rw [hbinds]; simp)
  rw [List.append_nil, m.weave_operands vs] at hweave
  rw [compile_after_column hrender, Piece.binds, hall, hfills, Piece.weave, hweave,
    String.ofList_append, String.ofList_append]
  rfl

theorem values_of_list {ws : List Value} {s : Statement} (h : m.candidates = .ok vs)
    (hws : vs.mapM m.column.type.serialize = .ok ws)
    (hs : (inList m).compile .generic = .ok s) : s.values = .ok ws := by
  rw [compile_list h] at hs
  cases hs
  rw [Statement.values, List.mapM_map]
  exact hws

/-- What a test of a column against a list comes to. -/
theorem truth_of_list {ws : List Value} {s : Statement} (h : m.candidates = .ok vs)
    (hws : vs.mapM m.column.type.serialize = .ok ws)
    (hs : (inList m).compile .generic = .ok s) (x : StoredValue m.column.type) :
    s.truth? (m.column.sql .generic) x = some (
      let found := if vs = [] then .unknown else Truth.any (ws.map x.compare)
      match m.polarity with
      | .isIn => found
      | .notIn => found.not) := by
  have hvalues := values_of_list h hws hs
  have htest : MembershipTest.read? (m.column.sql .generic) s.sql =
      (Operand.readAll? (operandChars vs.length ++ [')'])).map (.list m.polarity) := by
    rw [compile_list h] at hs
    cases hs
    rw [MembershipTest.read?_append]
    cases m.polarity <;> rfl
  cases vs with
  | nil =>
    -- The list has the literal null, which takes no argument.
    cases hws
    simp only [Statement.truth?, htest, hvalues]
    cases m.polarity <;> rfl
  | cons v vs =>
    have hlength : ws.length = vs.length + 1 := mapM_length hws
    have hargs := values?_placeholders ws
    rw [hlength] at hargs
    rw [List.length_cons, readAll?_operandChars] at htest
    simp only [Statement.truth?, htest, hvalues, Except.toOption, MembershipTest.truth?,
      Option.map_some, Option.bind_eq_bind, Option.bind_some, hargs]
    cases m.polarity <;> rfl

/-! ## The law -/

/-- For a row with a value in the column, one array and a list of placeholders come to the same
whenever there is a candidate. Without one, nothing equals an element of the empty array, while the
list has a null to compare with and its test stays unknown. -/
theorem array_and_list_tests_agree (m : InList Caster Value) (vs : List Value)
    (hscalar : m.column.type.kind = .scalar) (h : m.candidates = .ok vs) :
    ∃ s t column, (inList m).compile .postgres = .ok s ∧ (inList m).compile .generic = .ok t ∧
      (Node.column m.column : Query).compile .postgres = .ok ⟨column, [], true⟩ ∧
      (Node.column m.column : Query).compile .generic = .ok ⟨column, [], true⟩ ∧
      ∀ x : StoredValue m.column.type,
        (vs ≠ [] → ∃ truth, s.truth? column x = some truth ∧ t.truth? column x = some truth) ∧
        (vs = [] → t.truth? column x = some .unknown ∧
          s.truth? column x = some (.ofBool (m.polarity = .notIn))) := by
  obtain ⟨ws, hws, -⟩ := InList.castedValues_of_candidates h
  have hm : m.isPerValue .postgres = false :=
    InList.isPerValue_eq_false (by simp [hscalar]) (by simp [hscalar])
  have hs := compile_arrayInList hm h
  have ht := compile_list h
  refine ⟨_, _, m.column.sql .postgres, hs, ht, compile_column .postgres m.column,
    compile_column .generic m.column, fun x => ?_⟩
  have harray := truth_of_array hscalar h hws hs x
  have hlist := truth_of_list h hws ht x
  constructor
  · intro hne
    refine ⟨_, harray, hlist.trans ?_⟩
    rw [if_neg hne]
    cases m.polarity with
    | isIn => rfl
    | notIn => exact congrArg some (Truth.not_any _)
  · rintro rfl
    cases hws
    constructor
    · refine hlist.trans ?_
      cases m.polarity <;> rfl
    · refine harray.trans ?_
      cases m.polarity <;> rfl

/-- Two candidates are left of three values, one of which is in the row. -/
theorem array_and_list_tests_agree_on_two :
    let id : Column Caster := ⟨none, "id", .ofBytes 4⟩
    let m : InList Caster Value := ⟨id, [.integer 1, .null, .text " 7 "], .notIn⟩
    let x : StoredValue id.type := .ofText id.type "7"
    id.type.kind = .scalar ∧ m.candidates = .ok [.integer 1, .text " 7 "] ∧
    ∃ s t truth, (inList m).compile .postgres = .ok s ∧ (inList m).compile .generic = .ok t ∧
      s.truth? "\"id\"" x = some truth ∧ t.truth? "\"id\"" x = some truth := by
  intro id m x
  obtain ⟨s, t, column, hs, ht, hcolumn, -, hagree⟩ :=
    array_and_list_tests_agree m [.integer 1, .text " 7 "] rfl rfl
  obtain ⟨truth, harray, hlist⟩ := (hagree x).1 (by simp)
  have hid : (Node.column ⟨none, "id", .ofBytes 4⟩ : Query).compile .postgres
      = .ok ⟨"\"id\"", [], true⟩ := rfl
  cases hid.symm.trans hcolumn
  exact ⟨rfl, rfl, s, t, truth, hs, ht, harray, hlist⟩

/-- A null is no candidate. With nothing else to compare with, every row is kept in the one dialect
and none in the other. -/
theorem array_and_list_tests_differ_on_no_candidate :
    let id : Column Caster := ⟨none, "id", .ofBytes 4⟩
    let m : InList Caster Value := ⟨id, [.null], .notIn⟩
    let x : StoredValue id.type := .ofText id.type "7"
    id.type.kind = .scalar ∧ m.candidates = .ok [] ∧
    ∃ s t, (inList m).compile .postgres = .ok s ∧ (inList m).compile .generic = .ok t ∧
      s.truth? "\"id\"" x = some .holds ∧ t.truth? "\"id\"" x = some .unknown :=
  ⟨rfl, rfl, _, _, rfl, rfl, rfl, rfl⟩

end Node

end SqlTree
