-- The settings of the program, as a configuration file gives them.
import SqlTree.Dialect
import SqlTree.Toml.Reader

namespace SqlTree

/-- The dialects that a user can choose. -/
inductive DialectChoice where
  | generic
  | postgres
deriving DecidableEq, Repr

namespace DialectChoice

/-- The dialect of a name. -/
def ofName? (name : String) : Option DialectChoice :=
  if name == "generic" then some .generic
  else if name == "postgres" || name == "postgresql" then some .postgres
  else none

def dialect : DialectChoice → Dialect
  | generic => .generic
  | postgres => .postgres

end DialectChoice

/-- The settings of a run. -/
structure Settings where
  dialect : DialectChoice
  /-- Whether values are written into the statement. -/
  substituteBinds : Bool
  /-- Whether the statement is checked afterwards. -/
  check : Bool
deriving DecidableEq, Repr

namespace Settings

/-- The settings of a run without a configuration file. -/
def default : Settings := { dialect := .postgres, substituteBinds := false, check := false }

/-- Whether an item has nothing in it. -/
def isEmptyItem : Toml.Item → Bool
  | .array items => items.isEmpty
  | .inline t => t.entries.isEmpty
  | .table t => t.entries.isEmpty
  | .tables ts => ts.isEmpty
  | _ => false

/-- The dialect that a table names by its only key, which has nothing under it. -/
def choiceOfTable? (t : Toml.Table) : Option DialectChoice :=
  match t.entries with
  | [(name, item)] => if isEmptyItem item then DialectChoice.ofName? name else none
  | _ => none

/-- The dialect that an item names. -/
def choice? : Toml.Item → Option DialectChoice
  | .string name => DialectChoice.ofName? name
  | .inline t => choiceOfTable? t
  | .table t => choiceOfTable? t
  | _ => none

/-- The truth value that an item is. -/
def flag? : Toml.Item → Option Bool
  | .bool b => some b
  | _ => none

/-- What is under a key, or a default. -/
def entry {α : Type} (t : Toml.Table) (key : String) (default : α)
    (read? : Toml.Item → Option α) : Option α :=
  match t.get? key with
  | none => some default
  | some item => read? item

/-- The settings in a table; other keys are no matter. -/
def ofTable? (t : Toml.Table) : Option Settings := do
  return {
    dialect := ← entry t "dialect" default.dialect choice?
    substituteBinds := ← entry t "substitute_binds" default.substituteBinds flag?
    check := ← entry t "check" default.check flag? }

/-- Reads the settings from the text of a configuration file. -/
def read? (text : String) : Option Settings := Toml.read? text >>= ofTable?

end Settings

end SqlTree
