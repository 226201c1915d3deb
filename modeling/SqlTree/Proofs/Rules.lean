-- What each rule of the visitor writes, given what is written for its operands. A rule looks at the
-- operands themselves only to choose between two spellings.
import SqlTree.Proofs.Pieces
import SqlTree.Render.Visitor

namespace SqlTree.Render

open Rendering

/-! ## Leaves -/

/-- A column, after its table and a point if it has one. -/
def column (d : Dialect) (c : Column Caster) : Rendering :=
  let name := text (d.quoteColumnName c.name)
  match c.table with
  | none => name
  | some table => text (d.quoteTableName table) ++ (text "." ++ name)

/-- A table, and its other name if it has one. -/
def table (d : Dialect) (t : Table) : Rendering :=
  text (d.quoteTableName t.name) ++ optional " " (t.altName.map fun a => text (d.quoteTableName a))

/-- What a grammar has no rule for. -/
def unsupported (d : Dialect) (kind : String) : Rendering :=
  fail (.unsupported kind d.name)

/-! ## Operators -/

/-- Puts an operand in parentheses, unless it is a grouping and has its own. -/
def parenthesized (operand : Query) (r : Rendering) : Rendering :=
  match operand with
  | .unary .grouping _ => r
  | _ => text "(" ++ (r ++ text ")")

/-- A list goes in parentheses; a single element brings its own. -/
def groupingItems (operand : Query) (r : Rendering) : Rendering :=
  match operand with
  | .list _ => text "( " ++ (r ++ text " )")
  | _ => r

/-- A statement goes in parentheses, anything else stays as it is. -/
def subquery (operand : Query) (r : Rendering) : Rendering :=
  match operand with
  | .select _ => text "(" ++ (r ++ text ")")
  | _ => r

def unary (g : Grammar) (d : Dialect) (op : UnaryOp) (operand : Query) (r : Rendering) :
    Rendering :=
  match op, g with
  | .grouping, _ => parenthesized operand r
  | .not, _ => text "NOT " ++ parenthesized operand r
  | .ascending, _ => r ++ text " ASC"
  | .descending, _ => r ++ text " DESC"
  | .nullsFirst, _ => r ++ text " NULLS FIRST"
  | .nullsLast, _ => r ++ text " NULLS LAST"
  | .distinctOn, .postgres => text "DISTINCT ON ( " ++ (r ++ text " )")
  | .groupingElement, .postgres => text "( " ++ (r ++ text " )")
  | .cube, .postgres => text "CUBE" ++ groupingItems operand r
  | .rollUp, .postgres => text "ROLLUP" ++ groupingItems operand r
  | .groupingSet, .postgres => text "GROUPING SETS" ++ groupingItems operand r
  | .lateral, .postgres => text "LATERAL " ++ subquery operand r
  | _, .standard => unsupported d op.kind

/-- A comparison that tests for null if its right operand is a literal null. -/
def nullAware (op nullTest : String) (right : Query) (l r : Rendering) : Rendering :=
  if right.isNull then l ++ text nullTest else between op l r

/-- Zero if the operands are equal or both null, one otherwise. -/
def distinctCase (l r : Rendering) : Rendering :=
  text "CASE WHEN " ++ (between " = " l r ++ (text " OR (" ++ (l ++ (text " IS NULL AND "
    ++ (r ++ text " IS NULL) THEN 0 ELSE 1 END")))))

/-- A test against the elements of a list or a subquery. Nothing is in an empty list, and what is
tested then is not rendered. -/
def elementOf (op whenEmpty : String) (right : Query) (l r : Rendering) : Rendering :=
  let test := l ++ (text op ++ (r ++ text ")"))
  match right with
  | .list [] => text whenEmpty
  | .list (_ :: _) => varying ++ test
  | _ => test

def binary (g : Grammar) (op : BinaryOp) (right : Query) (l r : Rendering) : Rendering :=
  match op, g with
  | .equal, _ => nullAware " = " " IS NULL" right l r
  | .notEqual, _ => nullAware " != " " IS NOT NULL" right l r
  | .greater, _ => between " > " l r
  | .greaterOrEqual, _ => between " >= " l r
  | .less, _ => between " < " l r
  | .lessOrEqual, _ => between " <= " l r
  | .distinctFrom, .postgres => between " IS DISTINCT FROM " l r
  | .notDistinctFrom, .postgres => between " IS NOT DISTINCT FROM " l r
  | .distinctFrom, .standard =>
    if right.isNull then l ++ text " IS NOT NULL" else distinctCase l r ++ text " = 1"
  | .notDistinctFrom, .standard =>
    if right.isNull then l ++ text " IS NULL" else distinctCase l r ++ text " = 0"
  | .aliased, _ => between " AS " l r
  | .or, _ => between " OR " l r
  | .isIn, _ => elementOf " IN (" "1=0" right l r
  | .notIn, _ => elementOf " NOT IN (" "1=1" right l r

/-- A pattern with an optional escape character. -/
def pattern (op : String) (l r : Rendering) (escape : Option Rendering) : Rendering :=
  between op l r ++ optional " ESCAPE " escape

/-- A regular expression, for which the standard has nothing. -/
def regexp (g : Grammar) (d : Dialect) (negated caseSensitive : Bool) (l r : Rendering) :
    Rendering :=
  match g with
  | .postgres => between (regexpOperator negated caseSensitive) l r
  | .standard => unsupported d (if negated then "NotRegexp" else "Regexp")

/-- A call of a function, and the name of its result if it has one. -/
def call (d : Dialect) (name : String) (args : List Rendering) (distinct : Bool)
    (altName : Option String) : Rendering :=
  text name ++ (text "(" ++ ((if distinct then text "DISTINCT " else empty) ++ (joined ", " args
    ++ (text ")" ++ optional " AS " (altName.map fun a => text (d.quoteColumnName a))))))

/-! ## Lists of values -/

/-- One bind for each candidate. -/
def perValueInList (d : Dialect) (m : InList Caster Value) : Rendering :=
  let op := match m.polarity with
    | .isIn => " IN ("
    | .notIn => " NOT IN ("
  let values := match m.candidates with
    | .error e => fail (.cast e)
    | .ok [] => text Value.null.literal
    | .ok (v :: vs) =>
      binds ((v :: vs).map fun v => { name := m.column.name, value := v, type := m.column.type })
  varying ++ (column d m.column ++ (text op ++ (values ++ text ")")))

/-- One bind with all candidates in an array. -/
def arrayInList (d : Dialect) (m : InList Caster Value) : Rendering :=
  let op := match m.polarity with
    | .isIn => " = any("
    | .notIn => " != all("
  let array := match m.candidates with
    | .error e => fail (.cast e)
    | .ok vs =>
      bind { name := m.column.name, value := .array vs, type := .array m.column.type ',' }
  column d m.column ++ (text op ++ (array ++ text ")"))

/-- Binary and JSON columns have no usable array literal and keep one bind for each value. -/
def inList (g : Grammar) (d : Dialect) (m : InList Caster Value) : Rendering :=
  match g, m.column.type.kind with
  | .standard, _ => perValueInList d m
  | .postgres, .binary => perValueInList d m
  | .postgres, .json => perValueInList d m
  | .postgres, _ => arrayInList d m

/-! ## Trees -/

mutual
/-- Renders a tree by a grammar; what is inside it is rendered by the dialect's own. -/
def node (g : Grammar) (d : Dialect) : Query → Rendering
  | .sql s => text s
  | .star => text "*"
  | .distinct => text "DISTINCT"
  | .column c => column d c
  | .table t => table d t
  | .quoted v => text v.literal
  | .casted c v => literal (c.type.serialize v)
  | .bind b => bind b
  | .list items => joined ", " (nodes d items)
  | .and children => joined " AND " (nodes d children)
  | .unary op e => unary g d op e (node d.grammar d e)
  | .binary op l r => binary g op r (node d.grammar d l) (node d.grammar d r)
  | .tableAlias relation name =>
    node d.grammar d relation ++ (text " " ++ text (d.quoteTableName name))
  | .between e low high =>
    between " BETWEEN " (node d.grammar d e)
      (between " AND " (node d.grammar d low) (node d.grammar d high))
  | .like negated l r escape caseSensitive =>
    pattern (likeOperator g negated caseSensitive) (node d.grammar d l) (node d.grammar d r)
      (optionNode d escape)
  | .regexp negated l r caseSensitive =>
    regexp g d negated caseSensitive (node d.grammar d l) (node d.grammar d r)
  | .call name args distinct altName => call d name (nodes d args) distinct altName
  | .inList m => inList g d m
  | .select s => select d s

def nodes (d : Dialect) : List Query → List Rendering
  | [] => []
  | n :: ns => node d.grammar d n :: nodes d ns

def optionNode (d : Dialect) : Option Query → Option Rendering
  | none => none
  | some n => some (node d.grammar d n)

def join (d : Dialect) : Join Caster Value → Rendering
  | ⟨kind, relation, on⟩ =>
    text (joinKeyword kind) ++ (node d.grammar d relation ++ optional " ON " (optionNode d on))

def joins (d : Dialect) : List (Join Caster Value) → Rendering
  | [] => empty
  | j :: js => join d j ++ joins d js

def select (d : Dialect) : Select Caster Value → Rendering
  | ⟨distinct, projections, source, js, wheres, groups, havings, orders, limit, offset⟩ =>
    text "SELECT"
      ++ (optional " " (optionNode d distinct)
      ++ (clause " " ", " (nodes d projections)
      ++ (optional " FROM " (optionNode d source)
      ++ (joins d js
      ++ (clause " WHERE " " AND " (nodes d wheres)
      ++ (clause " GROUP BY " ", " (nodes d groups)
      ++ (clause " HAVING " " AND " (nodes d havings)
      ++ (clause " ORDER BY " ", " (nodes d orders)
      ++ (optional " LIMIT " (optionNode d limit)
      ++ optional " OFFSET " (optionNode d offset))))))))))
end

end SqlTree.Render

namespace SqlTree.Node

/-- Renders a query in a dialect. -/
def render (d : Dialect) (n : Query) : Rendering := Render.node d.grammar d n

/-- Renders a query with the standard rule for its root, whatever the dialect has for it. -/
def renderStandard (d : Dialect) (n : Query) : Rendering := Render.node .standard d n

end SqlTree.Node
