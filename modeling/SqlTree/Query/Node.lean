-- Relational query trees. A tree is made over two types: what a column's type is given by, and
-- what the values in it are. A query has casters and values there, a query document the names of
-- column types and JSON.
import SqlTree.Cast.Caster
import SqlTree.Value.Basic

namespace SqlTree

/-! ## Leaves -/

/-- A column, perhaps of a named table. -/
structure Column (τ : Type) where
  table : Option String
  name : String
  type : τ
deriving DecidableEq, Repr

/-- A table, perhaps with another name for use in the statement. -/
structure Table where
  name : String
  altName : Option String
deriving DecidableEq, Repr

/-- A value that is sent apart from the statement, with the name and type of its column. -/
structure Bind (τ ν : Type) where
  name : String
  value : ν
  type : τ
deriving Repr

/-- Whether a test asks for one of the values or for none of them. -/
inductive Polarity where
  | isIn
  | notIn
deriving DecidableEq, Repr

/-- A test of a column against a list of values for it. -/
structure InList (τ ν : Type) where
  column : Column τ
  values : List ν
  polarity : Polarity
deriving Repr

/-! ## Operators -/

/-- What can be done to one operand. -/
inductive UnaryOp where
  | grouping
  | not
  | ascending
  | descending
  | nullsFirst
  | nullsLast
  | distinctOn
  | groupingElement
  | cube
  | rollUp
  | groupingSet
  | lateral
deriving DecidableEq, Repr

/-- What can be done to two operands. -/
inductive BinaryOp where
  | equal
  | notEqual
  | greater
  | greaterOrEqual
  | less
  | lessOrEqual
  | distinctFrom
  | notDistinctFrom
  | aliased
  | or
  | isIn
  | notIn
deriving DecidableEq, Repr

/-- Which rows a join keeps. -/
inductive JoinKind where
  | inner
  | leftOuter
  | cross
deriving DecidableEq, Repr

/-! ## Trees -/

mutual
/-- A tree. -/
inductive Node (τ ν : Type) where
  /-- Text that is taken as it is. -/
  | sql (text : String)
  | star
  | distinct
  | column (c : Column τ)
  | table (t : Table)
  /-- A literal. -/
  | quoted (value : ν)
  /-- A literal that is cast to the type of a column first. -/
  | casted (c : Column τ) (value : ν)
  | bind (b : Bind τ ν)
  | list (items : List (Node τ ν))
  | and (children : List (Node τ ν))
  | unary (op : UnaryOp) (operand : Node τ ν)
  | binary (op : BinaryOp) (left right : Node τ ν)
  | tableAlias (relation : Node τ ν) (name : String)
  | between (operand low high : Node τ ν)
  | like (negated : Bool) (left right : Node τ ν) (escape : Option (Node τ ν))
      (caseSensitive : Bool)
  | regexp (negated : Bool) (left right : Node τ ν) (caseSensitive : Bool)
  | call (name : String) (args : List (Node τ ν)) (distinct : Bool) (altName : Option String)
  | inList (m : InList τ ν)
  | select (s : Select τ ν)

/-- A relation that is joined to the others, perhaps on a condition. -/
structure Join (τ ν : Type) where
  kind : JoinKind
  relation : Node τ ν
  on : Option (Node τ ν)

/-- A statement that selects rows, by its clauses. -/
structure Select (τ ν : Type) where
  distinct : Option (Node τ ν)
  projections : List (Node τ ν)
  source : Option (Node τ ν)
  joins : List (Join τ ν)
  wheres : List (Node τ ν)
  groups : List (Node τ ν)
  havings : List (Node τ ν)
  orders : List (Node τ ν)
  limit : Option (Node τ ν)
  offset : Option (Node τ ν)
end

/-- A query, ready to be rendered. -/
abbrev Query := Node Caster Value

/-! ## Kinds -/

/-- The kind of a node with this operator. -/
def UnaryOp.kind : UnaryOp → String
  | grouping => "Grouping"
  | not => "Not"
  | ascending => "Ascending"
  | descending => "Descending"
  | nullsFirst => "NullsFirst"
  | nullsLast => "NullsLast"
  | distinctOn => "DistinctOn"
  | groupingElement => "GroupingElement"
  | cube => "Cube"
  | rollUp => "RollUp"
  | groupingSet => "GroupingSet"
  | lateral => "Lateral"

/-- The kind of a node with this operator. -/
def BinaryOp.kind : BinaryOp → String
  | equal => "Equality"
  | notEqual => "NotEqual"
  | greater => "GreaterThan"
  | greaterOrEqual => "GreaterThanOrEqual"
  | less => "LessThan"
  | lessOrEqual => "LessThanOrEqual"
  | distinctFrom => "IsDistinctFrom"
  | notDistinctFrom => "IsNotDistinctFrom"
  | aliased => "As"
  | or => "Or"
  | isIn => "In"
  | notIn => "NotIn"

/-- The kind of a node, as messages name it. -/
def Node.kind {τ ν : Type} : Node τ ν → String
  | sql _ => "SqlLiteral"
  | star => "Star"
  | distinct => "Distinct"
  | column _ => "Attribute"
  | table _ => "Table"
  | quoted _ => "Quoted"
  | casted _ _ => "Casted"
  | bind _ => "BindParam"
  | list _ => "List"
  | and _ => "And"
  | unary op _ => op.kind
  | binary op _ _ => op.kind
  | tableAlias _ _ => "TableAlias"
  | between _ _ _ => "Between"
  | like negated _ _ _ _ => if negated then "DoesNotMatch" else "Matches"
  | regexp negated _ _ _ => if negated then "NotRegexp" else "Regexp"
  | call _ _ _ _ => "NamedFunction"
  | inList _ => "HomogeneousIn"
  | select _ => "SelectStatement"

def Node.isNull : Query → Bool
  | .quoted v => v.isNull
  | .casted _ v => v.isNull
  | _ => false

end SqlTree
