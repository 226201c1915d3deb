-- Reading query documents from JSON.
import SqlTree.Document.Forms
import SqlTree.Json.Reader

namespace SqlTree.Document

/-! ## Nodes and joins -/

/-- The node that an object makes: its form is the one under the key `node`. -/
def nodeOfObject? (form? : Json → Option Form) (fields : List (String × Reading)) :
    Option Document :=
  match fields.filter (·.1 == "node") with
  | [(_, tag)] => do
    let form ← form? tag.json
    form.build (← Slots.ofObject? form.parts (fields.filter (·.1 != "node")))
  | _ => none

/-- The node that an array makes: its form comes first. -/
def nodeOfArray? (form? : Json → Option Form) : List Reading → Option Document
  | [] => none
  | tag :: items => do
    let form ← form? tag.json
    form.build (← Slots.ofArray? form.parts items)

def joinParts : List String := ["kind", "relation", "on"]

/-- The join that parts make; it is an inner one unless told otherwise. -/
def join? (s : Slots Reading) : Option (Join String Json) := do
  return {
    kind := ← s.withDefault "kind" .inner fun r => joinKind? r.json
    relation := ← s.required "relation" Reading.node
    on := ← s.withDefault "on" none Reading.nodeOrNull }

/-! ## Readings of all values -/

/-- What a value that holds no others can be read as. -/
def Reading.ofScalar (j : Json) : Reading :=
  { json := j, node := none, nodes := none, join := none, joins := none }

/-- What an array can be read as, given what its items can. -/
def Reading.ofArray (items : List Reading) : Reading :=
  { json := .array (items.map (·.json))
    node := nodeOfArray? anyForm? items
    nodes := items.mapM (·.node)
    join := Slots.ofArray? joinParts items >>= join?
    joins := items.mapM (·.join) }

/-- What an object can be read as, given what its values can. -/
def Reading.ofObject (fields : List (String × Reading)) : Reading :=
  { json := .object (fields.map fun (k, r) => (k, r.json))
    node := nodeOfObject? anyForm? fields
    nodes := none
    join := Slots.ofObject? joinParts fields >>= join?
    joins := none }

mutual
/-- What a JSON value can be read as. -/
def Reading.of : Json → Reading
  | .array items => .ofArray (Reading.ofItems items)
  | .object fields => .ofObject (Reading.ofFields fields)
  | scalar => .ofScalar scalar

def Reading.ofItems : List Json → List Reading
  | [] => []
  | j :: js => Reading.of j :: Reading.ofItems js

def Reading.ofFields : List (String × Json) → List (String × Reading)
  | [] => []
  | (k, j) :: rest => (k, Reading.of j) :: Reading.ofFields rest
end

/-! ## Documents -/

/-- The document that a JSON value is; its outermost tag is a name. -/
def ofJson? : Json → Option Document
  | .array items => nodeOfArray? namedForm? (Reading.ofItems items)
  | .object fields => nodeOfObject? namedForm? (Reading.ofFields fields)
  | _ => none

/-- Reads the text of a document. -/
def read? (text : String) : Option Document := Json.read? text >>= ofJson?

end SqlTree.Document
