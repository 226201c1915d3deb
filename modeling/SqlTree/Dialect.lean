-- Dialects of SQL: how names and literals are quoted, what stands for a bind, and which grammar
-- the statements follow.
import SqlTree.Value.ArrayLiteral

namespace SqlTree

/-- What stands in a statement for the value of a bind. -/
inductive PlaceholderStyle where
  /-- A question mark for each. -/
  | question
  /-- A dollar sign and the number of the bind. -/
  | numbered
deriving DecidableEq, Repr

/-- The rules by which trees are rendered. -/
inductive Grammar where
  | standard
  | postgres
deriving DecidableEq, Repr

/-- A dialect of SQL. -/
structure Dialect where
  name : String
  identifierQuote : Char
  placeholderStyle : PlaceholderStyle
  grammar : Grammar
deriving DecidableEq, Repr

namespace Dialect

/-- The dialect of PostgreSQL. -/
def postgres : Dialect :=
  { name := "postgresql", identifierQuote := '"', placeholderStyle := .numbered
    grammar := .postgres }

/-- Standard SQL. -/
def generic : Dialect :=
  { name := "generic", identifierQuote := '"', placeholderStyle := .question
    grammar := .standard }

/-- The placeholder of the bind at a position, counted from one. -/
def placeholder (d : Dialect) (index : Nat) : String :=
  match d.placeholderStyle with
  | .question => "?"
  | .numbered => String.ofList ('$' :: Text.natDigits index)

end Dialect

/-! ## Quoting -/

namespace Quoting

/-- Text between two quotes, every quote inside it doubled. -/
def enclose (quote : Char) (cs : List Char) : List Char :=
  quote :: (cs.flatMap (fun c => if c == quote then [quote, quote] else [c]) ++ [quote])

/-- A string literal. -/
def string (s : String) : String := String.ofList (enclose '\'' s.toList)

end Quoting

namespace Dialect

/-- A name in quotes. -/
def quoteIdentifier (d : Dialect) (name : String) : String :=
  String.ofList (Quoting.enclose d.identifierQuote name.toList)

def quoteTableName (d : Dialect) (name : String) : String := d.quoteIdentifier name

def quoteColumnName (d : Dialect) (name : String) : String := d.quoteIdentifier name

end Dialect

/-- A value as a literal: nulls, truth values and finite numbers are bare, all else is a string. -/
def Value.literal : Value → String
  | null => "NULL"
  | bool b => if b then "TRUE" else "FALSE"
  | integer n => integerText n
  | float d => if d.isFinite then d.text else Quoting.string d.text
  | array items => Quoting.string (ArrayLiteral.encode ',' items)
  | v => Quoting.string (v.toText?.getD "")

end SqlTree
