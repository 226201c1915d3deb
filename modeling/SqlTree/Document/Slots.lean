-- The named parts of a record in a document. A record is written as an object, in any order and
-- with other keys among its own, or as an array of its parts in order.
import SqlTree.Json.Basic

namespace SqlTree.Document

/-- The parts of a record that are present, by name. -/
structure Slots (α : Type) where
  entries : List (String × α)

namespace Slots

variable {α : Type}

/-- Whether a text occurs twice. -/
def hasRepeats : List String → Bool
  | [] => false
  | s :: rest => rest.contains s || hasRepeats rest

/-- The parts that an object holds; none of them may be given twice. -/
def ofObject? (names : List String) (fields : List (String × α)) : Option (Slots α) :=
  let known := fields.filter fun field => names.contains field.1
  if hasRepeats (known.map (·.1)) then none else some ⟨known⟩

/-- The parts that an array holds, which are the first ones. -/
def ofArray? (names : List String) (items : List α) : Option (Slots α) :=
  if items.length ≤ names.length then some ⟨names.zip items⟩ else none

def get? (s : Slots α) (name : String) : Option α :=
  (s.entries.find? (·.1 == name)).map (·.2)

/-- A part that must be there and read as something. -/
def required {β : Type} (s : Slots α) (name : String) (read : α → Option β) : Option β :=
  s.get? name >>= read

/-- A part that may be left out. -/
def withDefault {β : Type} (s : Slots α) (name : String) (default : β) (read : α → Option β) :
    Option β :=
  match s.get? name with
  | none => some default
  | some a => read a

end Slots

/-! ## Plain parts -/

def string? : Json → Option String
  | .string s => some s
  | _ => none

def flag? : Json → Option Bool
  | .bool b => some b
  | _ => none

def stringOrNull? : Json → Option (Option String)
  | .null => some none
  | .string s => some (some s)
  | _ => none

/-- The plain values of an array. -/
def values? : Json → Option (List Json)
  | .array items => some (Json.canonicalItems items)
  | _ => none

end SqlTree.Document
