-- Column types by name. Names are compared without case and outer white space, and every `[]` at
-- the end of a name makes an array of what stands before it.
import SqlTree.Cast.Caster
import SqlTree.Cast.Error
import SqlTree.Text.Blank
import SqlTree.Text.Lowercase

namespace SqlTree

/-- Registered names with their casters, the latest first. -/
structure TypeMap where
  entries : List (String × Caster)
deriving Repr

namespace TypeMap

def empty : TypeMap := ⟨[]⟩

/-- The form in which names are compared. -/
def normalize (name : String) : String := Text.lowercase (Text.trim name)

/-- Gives a name to a caster; an earlier caster of the name is forgotten. -/
def register (m : TypeMap) (name : String) (c : Caster) : TypeMap :=
  ⟨(normalize name, c) :: m.entries⟩

/-- Takes array suffixes and the white space around them off a name that is spelled backwards,
counting the suffixes. -/
def peelSuffixes (count : Nat) : List Char → Nat × List Char
  | [] => (count, [])
  | [c] => if Text.isBlank c then (count, []) else (count, [c])
  | c :: d :: rest =>
    if Text.isBlank c then peelSuffixes count (d :: rest)
    else if c == ']' && d == '[' then peelSuffixes (count + 1) rest
    else (count, c :: d :: rest)

/-- A normal name as a base name and the number of array suffixes on it. -/
def splitSuffixes (name : String) : Nat × String :=
  let (count, reversed) := peelSuffixes 0 name.toList.reverse
  (count, String.ofList reversed.reverse)

/-- An array of so many dimensions. -/
def nest : Nat → Caster → Caster
  | 0, c => c
  | n + 1, c => .array (nest n c) ','

/-- The caster of a name. -/
def lookup (m : TypeMap) (name : String) : Except CastError Caster :=
  let (count, base) := splitSuffixes (normalize name)
  match m.entries.find? (·.1 == base) with
  | some (_, c) => .ok (nest count c)
  | none => .error (.unknownType base)

/-! ## The usual names -/

/-- The casters that have a name from the start, with all their names. -/
def standardNames : List (Caster × List String) :=
  [ (.ofBytes 2, ["smallint", "int2"]),
    (.ofBytes 4, ["integer", "int", "int4"]),
    (.ofBytes 8, ["bigint", "int8"]),
    (.float, ["float8", "float", "double precision", "real", "float4", "numeric"]),
    (.boolean, ["boolean", "bool"]),
    (.text, ["text", "varchar", "character varying", "citext", "uuid"]),
    (.date, ["date"]),
    (.timestamp, ["timestamp", "timestamp without time zone", "datetime"]),
    (.bytea, ["bytea"]),
    (.jsonb, ["jsonb"]),
    (.json, ["json"]) ]

/-- The map of the usual names. -/
def postgres : TypeMap :=
  standardNames.foldl (fun m (c, names) => names.foldl (·.register · c) m) empty

end TypeMap

end SqlTree
