-- What can go wrong when a value is cast or a column type is looked up.
import SqlTree.Value.Outline

namespace SqlTree

/-- Why a value has no form in a column type, or a column type no caster. -/
inductive CastError where
  /-- The number, as text, does not fit the column type. -/
  | outOfRange (number : String) (sqlType : String)
  /-- The value has no counterpart in the column type. -/
  | invalid (value : Value) (sqlType : String)
  /-- No column type has this name. -/
  | unknownType (name : String)
deriving Repr

namespace CastError

/-- What a user is told. -/
def message : CastError → String
  | outOfRange number sqlType => number ++ " is out of range for " ++ sqlType
  | invalid value sqlType =>
    "cannot cast " ++ value.typeName ++ " value " ++ Text.quoted value.shown ++ " to " ++ sqlType
  | unknownType name => "unknown column type " ++ Text.quoted name

/-- Whether the only fault of a value is its size. -/
def isOutOfRange : CastError → Bool
  | outOfRange _ _ => true
  | _ => false

end CastError

end SqlTree
