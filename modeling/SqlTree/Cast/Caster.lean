-- Casters: the column types that values are cast to.
namespace SqlTree

/-- The number of bytes of an integer column. -/
structure Width where
  bytes : Nat
  pos : 1 ≤ bytes
  le : bytes ≤ 8
deriving DecidableEq, Repr

/-- The nearest width to any number of bytes. -/
def Width.clamp (n : Nat) : Width :=
  ⟨max 1 (min n 8), by omega, by omega⟩

/-- A column type, as far as it decides which values a column takes. -/
inductive Caster where
  | integer (width : Width)
  | float
  | boolean
  | text
  | date
  | timestamp
  | bytea
  | json
  | jsonb
  | array (element : Caster) (delimiter : Char)
deriving DecidableEq, Repr

/-- The families of column types that queries treat differently. -/
inductive TypeKind where
  | scalar
  | binary
  | json
  | array
deriving DecidableEq, Repr

/-- The name of an integer column. -/
def Width.sqlType (w : Width) : String :=
  if w.bytes ≤ 2 then "smallint" else if w.bytes ≤ 4 then "integer" else "bigint"

namespace Caster

/-- An integer column of so many bytes, one to eight. -/
def ofBytes (n : Nat) : Caster := .integer (.clamp n)

/-- The name of a column type. -/
def sqlType : Caster → String
  | integer w => w.sqlType
  | float => "float8"
  | boolean => "boolean"
  | text => "text"
  | date => "date"
  | timestamp => "timestamp"
  | bytea => "bytea"
  | json => "json"
  | jsonb => "jsonb"
  | array element _ => element.sqlType ++ "[]"

/-- The family of a column type. -/
def kind : Caster → TypeKind
  | bytea => .binary
  | json => .json
  | jsonb => .json
  | array _ _ => .array
  | _ => .scalar

end Caster

end SqlTree
