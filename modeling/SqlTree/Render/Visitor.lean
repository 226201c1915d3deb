-- The visitor. It goes through a query from left to right and fills a collector on the way, up to
-- the end or to the first thing that cannot be rendered.
import SqlTree.Query.Builder
import SqlTree.Render.Collector

namespace SqlTree

/-! ## Keywords -/

namespace Render

/-- The standard has no pattern that ignores case. -/
def likeOperator (g : Grammar) (negated caseSensitive : Bool) : String :=
  match g, negated, caseSensitive with
  | .postgres, false, false => " ILIKE "
  | .postgres, true, false => " NOT ILIKE "
  | _, false, _ => " LIKE "
  | _, true, _ => " NOT LIKE "

def regexpOperator (negated caseSensitive : Bool) : String :=
  match negated, caseSensitive with
  | false, true => " ~ "
  | false, false => " ~* "
  | true, true => " !~ "
  | true, false => " !~* "

/-- The words that begin a join. -/
def joinKeyword : JoinKind → String
  | .inner => " INNER JOIN "
  | .leftOuter => " LEFT OUTER JOIN "
  | .cross => " CROSS JOIN "

end Render

namespace Visitor

open Collector Visit

variable {σ : Type} [Collector σ]

/-! ## Single acts -/

def push (s : String) : Visit σ Unit := modify (pushText · s)

/-- Says anew whether the statement may be prepared. -/
def mark (preparable : Bool) : Visit σ Unit := modify (setPreparable · preparable)

/-- Stops at a kind of node that the grammar has no rule for. -/
def unsupported (d : Dialect) (kind : String) : Visit σ Unit := throw (.unsupported kind d.name)

/-! ## Sequences -/

/-- Visits one after another, the first of which has this number. The separator comes before each
but number zero. -/
def joinedFrom (separator : String) : Nat → List (Visit σ Unit) → Visit σ Unit
  | _, [] => pure ()
  | index, v :: vs => do
    if index > 0 then push separator
    v
    joinedFrom separator (index + 1) vs

/-- Visits with a separator between them. -/
def joined (separator : String) (vs : List (Visit σ Unit)) : Visit σ Unit :=
  joinedFrom separator 0 vs

/-- A part that may be absent, after a text. -/
def optional (lead : String) : Option (Visit σ Unit) → Visit σ Unit
  | none => pure ()
  | some v => do
    push lead
    v

/-- A clause with a keyword before it, left out if it has no items. -/
def clause (lead separator : String) (vs : List (Visit σ Unit)) : Visit σ Unit := do
  unless vs.isEmpty do
    push lead
    joined separator vs

/-- Two operands around an operator. -/
def between (op : String) (left right : Visit σ Unit) : Visit σ Unit := do
  left
  push op
  right

/-- Binds with commas between them. -/
def addBinds (d : Dialect) (bs : List (Bind Caster Value)) : Visit σ Unit :=
  joined ", " (bs.map (addBind d))

/-! ## Leaves -/

/-- A column, after its table and a point if it has one. -/
def column (d : Dialect) (c : Column Caster) : Visit σ Unit := do
  if let some table := c.table then
    push (d.quoteTableName table)
    push "."
  push (d.quoteColumnName c.name)

/-- A table, and its other name if it has one. -/
def table (d : Dialect) (t : Table) : Visit σ Unit := do
  push (d.quoteTableName t.name)
  if let some altName := t.altName then
    push " "
    push (d.quoteTableName altName)

/-- A literal of the value that a column receives. -/
def casted (c : Column Caster) (v : Value) : Visit σ Unit := do
  let received ← orStop (c.type.serialize v)
  push received.literal

/-! ## Operators -/

/-- An operand between two texts. -/
def enclosed (opening closing : String) (operand : Visit σ Unit) : Visit σ Unit := do
  push opening
  operand
  push closing

/-- Puts an operand in parentheses, unless it is a grouping and has its own. -/
def parenthesized (e : Query) (operand : Visit σ Unit) : Visit σ Unit :=
  match e with
  | .unary .grouping _ => operand
  | _ => enclosed "(" ")" operand

/-- A list goes in parentheses; a single element brings its own. -/
def groupingItems (e : Query) (operand : Visit σ Unit) : Visit σ Unit :=
  match e with
  | .list _ => enclosed "( " " )" operand
  | _ => operand

/-- A statement goes in parentheses, anything else stays as it is. -/
def subquery (e : Query) (operand : Visit σ Unit) : Visit σ Unit :=
  match e with
  | .select _ => enclosed "(" ")" operand
  | _ => operand

def suffixed (operand : Visit σ Unit) (suffix : String) : Visit σ Unit := do
  operand
  push suffix

def unary (g : Grammar) (d : Dialect) (op : UnaryOp) (e : Query) (operand : Visit σ Unit) :
    Visit σ Unit :=
  match op, g with
  | .grouping, _ => parenthesized e operand
  | .not, _ => do
    push "NOT "
    parenthesized e operand
  | .ascending, _ => suffixed operand " ASC"
  | .descending, _ => suffixed operand " DESC"
  | .nullsFirst, _ => suffixed operand " NULLS FIRST"
  | .nullsLast, _ => suffixed operand " NULLS LAST"
  | .distinctOn, .postgres => enclosed "DISTINCT ON ( " " )" operand
  | .groupingElement, .postgres => enclosed "( " " )" operand
  | .cube, .postgres => do
    push "CUBE"
    groupingItems e operand
  | .rollUp, .postgres => do
    push "ROLLUP"
    groupingItems e operand
  | .groupingSet, .postgres => do
    push "GROUPING SETS"
    groupingItems e operand
  | .lateral, .postgres => do
    push "LATERAL "
    subquery e operand
  | _, .standard => unsupported d op.kind

/-- A comparison that tests for null if its right operand is a literal null. -/
def nullAware (op nullTest : String) (right : Query) (l r : Visit σ Unit) : Visit σ Unit :=
  if right.isNull then suffixed l nullTest else between op l r

/-- Zero if the operands are equal or both null, one otherwise. -/
def distinctCase (l r : Visit σ Unit) : Visit σ Unit := do
  push "CASE WHEN "
  between " = " l r
  push " OR ("
  l
  push " IS NULL AND "
  r
  push " IS NULL) THEN 0 ELSE 1 END"

/-- A test against the elements of a list or a subquery. Nothing is in an empty list, and what is
tested then is not visited. -/
def elementOf (op whenEmpty : String) (right : Query) (l r : Visit σ Unit) : Visit σ Unit := do
  if let .list items := right then
    if items.isEmpty then
      push whenEmpty
      return
    mark false
  l
  push op
  r
  push ")"

def binary (g : Grammar) (op : BinaryOp) (right : Query) (l r : Visit σ Unit) : Visit σ Unit :=
  match op, g with
  | .equal, _ => nullAware " = " " IS NULL" right l r
  | .notEqual, _ => nullAware " != " " IS NOT NULL" right l r
  | .greater, _ => between " > " l r
  | .greaterOrEqual, _ => between " >= " l r
  | .less, _ => between " < " l r
  | .lessOrEqual, _ => between " <= " l r
  | .distinctFrom, .postgres => between " IS DISTINCT FROM " l r
  | .notDistinctFrom, .postgres => between " IS NOT DISTINCT FROM " l r
  | .distinctFrom, .standard =>
    if right.isNull then suffixed l " IS NOT NULL" else suffixed (distinctCase l r) " = 1"
  | .notDistinctFrom, .standard =>
    if right.isNull then suffixed l " IS NULL" else suffixed (distinctCase l r) " = 0"
  | .aliased, _ => between " AS " l r
  | .or, _ => between " OR " l r
  | .isIn, _ => elementOf " IN (" "1=0" right l r
  | .notIn, _ => elementOf " NOT IN (" "1=1" right l r

/-- A pattern with an optional escape character. -/
def pattern (op : String) (l r : Visit σ Unit) (escape : Option (Visit σ Unit)) :
    Visit σ Unit := do
  between op l r
  optional " ESCAPE " escape

/-- A regular expression, for which the standard has nothing. -/
def regexp (g : Grammar) (d : Dialect) (negated caseSensitive : Bool) (l r : Visit σ Unit) :
    Visit σ Unit :=
  match g with
  | .postgres => between (Render.regexpOperator negated caseSensitive) l r
  | .standard => unsupported d (if negated then "NotRegexp" else "Regexp")

/-- A call of a function, and the name of its result if it has one. -/
def call (d : Dialect) (name : String) (args : List (Visit σ Unit)) (distinct : Bool)
    (altName : Option String) : Visit σ Unit := do
  push name
  push "("
  if distinct then push "DISTINCT "
  joined ", " args
  push ")"
  if let some altName := altName then
    push " AS "
    push (d.quoteColumnName altName)

/-! ## Lists of values -/

/-- One bind for each candidate, and a null if there is none. -/
def candidates (d : Dialect) (c : Column Caster) : List Value → Visit σ Unit
  | [] => push Value.null.literal
  | vs => addBinds d (vs.map fun v => { name := c.name, value := v, type := c.type })

/-- A test against the candidates one by one. -/
def perValueInList (d : Dialect) (m : InList Caster Value) : Visit σ Unit := do
  mark false
  column d m.column
  push (match m.polarity with
    | .isIn => " IN ("
    | .notIn => " NOT IN (")
  candidates d m.column (← orStop m.candidates)
  push ")"

/-- A test against one bind with all candidates in an array. -/
def arrayInList (d : Dialect) (m : InList Caster Value) : Visit σ Unit := do
  column d m.column
  push (match m.polarity with
    | .isIn => " = any("
    | .notIn => " != all(")
  let vs ← orStop m.candidates
  addBind d { name := m.column.name, value := .array vs, type := .array m.column.type ',' }
  push ")"

/-- Binary and JSON columns have no usable array literal and keep one bind for each value. -/
def inList (g : Grammar) (d : Dialect) (m : InList Caster Value) : Visit σ Unit :=
  match g, m.column.type.kind with
  | .standard, _ => perValueInList d m
  | .postgres, .binary => perValueInList d m
  | .postgres, .json => perValueInList d m
  | .postgres, _ => arrayInList d m

/-! ## Trees -/

mutual
/-- Visits a tree by a grammar; what is inside it is visited by the dialect's own. -/
def node (g : Grammar) (d : Dialect) : Query → Visit σ Unit
  | .sql s => push s
  | .star => push "*"
  | .distinct => push "DISTINCT"
  | .column c => column d c
  | .table t => table d t
  | .quoted v => push v.literal
  | .casted c v => casted c v
  | .bind b => addBind d b
  | .list items => joined ", " (nodes d items)
  | .and children => joined " AND " (nodes d children)
  | .unary op e => unary g d op e (node d.grammar d e)
  | .binary op l r => binary g op r (node d.grammar d l) (node d.grammar d r)
  | .tableAlias relation name => do
    node d.grammar d relation
    push " "
    push (d.quoteTableName name)
  | .between e low high =>
    between " BETWEEN " (node d.grammar d e)
      (between " AND " (node d.grammar d low) (node d.grammar d high))
  | .like negated l r escape caseSensitive =>
    pattern (Render.likeOperator g negated caseSensitive) (node d.grammar d l)
      (node d.grammar d r) (optionNode d escape)
  | .regexp negated l r caseSensitive =>
    regexp g d negated caseSensitive (node d.grammar d l) (node d.grammar d r)
  | .call name args distinct altName => call d name (nodes d args) distinct altName
  | .inList m => inList g d m
  | .select s => select d s

def nodes (d : Dialect) : List Query → List (Visit σ Unit)
  | [] => []
  | n :: ns => node d.grammar d n :: nodes d ns

def optionNode (d : Dialect) : Option Query → Option (Visit σ Unit)
  | none => none
  | some n => some (node d.grammar d n)

def joins (d : Dialect) : List (Join Caster Value) → Visit σ Unit
  | [] => pure ()
  | ⟨kind, relation, on⟩ :: js => do
    push (Render.joinKeyword kind)
    node d.grammar d relation
    optional " ON " (optionNode d on)
    joins d js

/-- Visits a statement clause by clause. -/
def select (d : Dialect) : Select Caster Value → Visit σ Unit
  | ⟨distinct, projections, source, js, wheres, groups, havings, orders, limit, offset⟩ => do
    push "SELECT"
    optional " " (optionNode d distinct)
    clause " " ", " (nodes d projections)
    optional " FROM " (optionNode d source)
    joins d js
    clause " WHERE " " AND " (nodes d wheres)
    clause " GROUP BY " ", " (nodes d groups)
    clause " HAVING " " AND " (nodes d havings)
    clause " ORDER BY " ", " (nodes d orders)
    optional " LIMIT " (optionNode d limit)
    optional " OFFSET " (optionNode d offset)
end

end Visitor

namespace Node

variable {σ : Type} [Collector σ]

/-- Visits a query in a dialect. -/
def visit (d : Dialect) (n : Query) : Visit σ Unit := Visitor.node d.grammar d n

/-- Visits a query with the standard rule for its root, whatever the dialect has for it. -/
def visitStandard (d : Dialect) (n : Query) : Visit σ Unit := Visitor.node .standard d n

end Node

/-! ## Steps -/

/-- What can be asked of a visitor. -/
inductive Step where
  | push (sql : String)
  | bind (b : Bind Caster Value)
  | binds (bs : List (Bind Caster Value))
  | visit (n : Query)
  /-- The standard rule for the root, whatever the dialect has for it. -/
  | visitStandard (n : Query)
  | visitJoined (ns : List Query) (separator : String)
  | visitBetween (left : Query) (op : String) (right : Query)
  | visitPattern (left : Query) (op : String) (right : Query) (escape : Option Query)
  /-- A node that the dialect has nothing for. -/
  | refuse (n : Query)

section

variable {σ : Type} [Collector σ]

/-- What a step does. -/
def Step.act (d : Dialect) : Step → Visit σ Unit
  | push sql => Visitor.push sql
  | bind b => Collector.addBind d b
  | binds bs => Visitor.addBinds d bs
  | visit n => n.visit d
  | visitStandard n => n.visitStandard d
  | visitJoined ns separator => Visitor.joined separator (ns.map (·.visit d))
  | visitBetween l op r => Visitor.between op (l.visit d) (r.visit d)
  | visitPattern l op r escape =>
    Visitor.pattern op (l.visit d) (r.visit d) (escape.map (·.visit d))
  | refuse n => Visitor.unsupported d n.kind

/-- The collector after a step, and what stopped the step. -/
def Step.take (d : Dialect) (s : Step) (c : σ) : σ × Option CompileError := (s.act d).on c

end

def BindCollector.step (d : Dialect) (c : BindCollector) (s : Step) := s.take d c

def LiteralCollector.step (d : Dialect) (c : LiteralCollector) (s : Step) := s.take d c

end SqlTree
