-- Query documents: trees over the names of column types and JSON values, and what a JSON value can
-- be read as in one.
import SqlTree.Document.Slots
import SqlTree.Query.Node

namespace SqlTree

/-- A query document. -/
abbrev Document := Node String Json

namespace Document

/-! ## Columns and join kinds -/

/-- A column of a document, with the name of its type. -/
def column? (j : Json) : Option (Column String) := do
  let names := ["table", "name", "type"]
  let s ← match j with
    | .object fields => Slots.ofObject? names fields
    | .array items => Slots.ofArray? names items
    | _ => none
  return {
    table := ← s.withDefault "table" none stringOrNull?
    name := ← s.required "name" string?
    type := ← s.required "type" string? }

/-- The join kind of a name. -/
def joinKindNamed? (name : String) : Option JoinKind :=
  if name == "inner" then some .inner
  else if name == "left_outer" then some .leftOuter
  else if name == "cross" then some .cross
  else none

/-- A join kind is its name, or an object with nothing under its name. -/
def joinKind? : Json → Option JoinKind
  | .string name => joinKindNamed? name
  | .object [(name, .null)] => joinKindNamed? name
  | .object [(name, .object [])] => joinKindNamed? name
  | _ => none

/-! ## Readings -/

/-- A JSON value with all that it can be read as. -/
structure Reading where
  json : Json
  node : Option Document
  nodes : Option (List Document)
  join : Option (Join String Json)
  joins : Option (List (Join String Json))

namespace Reading

/-- A tree or null. -/
def nodeOrNull (r : Reading) : Option (Option Document) :=
  match r.json with
  | .null => some none
  | _ => r.node.map some

def value (r : Reading) : Option Json := some r.json.canonical

def string (r : Reading) : Option String := string? r.json

def stringOrNull (r : Reading) : Option (Option String) := stringOrNull? r.json

def flag (r : Reading) : Option Bool := flag? r.json

def values (r : Reading) : Option (List Json) := values? r.json

def column (r : Reading) : Option (Column String) := column? r.json

end Reading

end Document

end SqlTree
