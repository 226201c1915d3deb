-- Tables of a configuration file. A table remembers how it came to be, because that decides which
-- later lines may add to it.
namespace SqlTree.Toml

mutual
/-- What stands under a key. Values that settings make no use of are told apart no further. -/
inductive Item where
  | string (s : String)
  | bool (b : Bool)
  /-- A number, a date or a time. -/
  | other
  | array (items : List Item)
  /-- A table that is written as a value. -/
  | inline (t : Table)
  | table (t : Table)
  /-- Tables that are written one by one under the same header. -/
  | tables (ts : List Table)

/-- Items by their keys. -/
structure Table where
  entries : List (String × Item)
  /-- Only mentioned so far, as part of a longer name. -/
  implicit : Bool
  /-- Made by a dotted key. -/
  dotted : Bool
end

namespace Table

/-- A table with a definition of its own. -/
def empty : Table := ⟨[], false, false⟩

/-- The item under a key. -/
def get? (t : Table) (key : String) : Option Item := (t.entries.find? (·.1 == key)).map (·.2)

/-- Puts an item in the place of the one under its key, or at the end. -/
def set (t : Table) (key : String) (item : Item) : Table :=
  if t.entries.any (·.1 == key) then
    { t with entries := t.entries.map fun e => if e.1 == key then (key, item) else e }
  else { t with entries := t.entries ++ [(key, item)] }

/-- A table without what is under a key. -/
def erase (t : Table) (key : String) : Table :=
  { t with entries := t.entries.filter (·.1 != key) }

/-- Adds an item under a new key. -/
def insert? (t : Table) (key : String) (item : Item) : Option Table :=
  if t.entries.any (·.1 == key) then none else some (t.set key item)

/-- Changes the table that a path leads to, making the tables on the way that are missing. Of
tables written one by one, the last is meant. A dotted key cannot pass a table that has a
definition of its own. -/
def descend (dotted : Bool) (change : Table → Option Table) : List String → Table → Option Table
  | [], t => change t
  | key :: path, t =>
    match t.get? key with
    | none => do
      return t.set key (.table (← descend dotted change path ⟨[], true, dotted⟩))
    | some (.table child) =>
      if dotted && !child.implicit then none
      else do return t.set key (.table (← descend dotted change path child))
    | some (.tables children) =>
      match children.reverse with
      | [] => none
      | last :: before => do
        return t.set key (.tables (before.reverse ++ [← descend dotted change path last]))
    | some _ => none

/-- Changes the inline table that a dotted key leads to. -/
def descendInline (change : Table → Option Table) : List String → Table → Option Table
  | [], t => change t
  | key :: path, t =>
    match t.get? key with
    | none => do
      return t.set key (.inline (← descendInline change path ⟨[], true, true⟩))
    | some (.inline child) =>
      if child.implicit then do
        return t.set key (.inline (← descendInline change path child))
      else none
    | some _ => none

/-- Adds an item at the end of a path. A table made by dotted keys only grows by dotted keys, and
any other only without. -/
def place (path : List String) (key : String) (item : Item) (t : Table) : Option Table :=
  if t.dotted == path.isEmpty then none else t.insert? key item

/-- Adds the item of a line to a table. -/
def addKey (t : Table) (path : List String) (key : String) (item : Item) : Option Table :=
  t.descend true (place path key item) path

/-- Adds an item to an inline table. -/
def addInlineKey (t : Table) (path : List String) (key : String) (item : Item) : Option Table :=
  t.descendInline (place path key item) path

end Table

/-! ## Sections -/

/-- A file so far: the finished tables, and the table that lines are added to with its name. The
table of the file itself has no name. -/
structure Outline where
  root : Table
  current : Table
  /-- The path to the current table and its key there. -/
  name : Option (List String × String)
  /-- Whether the current table is one of several under the same header. -/
  repeated : Bool

namespace Outline

/-- A file before its first line. -/
def start : Outline := ⟨.empty, .empty, none, false⟩

/-- Puts the current table where it belongs. -/
def finish (o : Outline) : Option Table :=
  match o.name with
  | none => some o.current
  | some (path, key) =>
    o.root.descend false (fun parent =>
      if o.repeated then
        match parent.get? key with
        | none => some (parent.set key (.tables [o.current]))
        | some (.tables ts) => some (parent.set key (.tables (ts ++ [o.current])))
        | some _ => none
      else some (parent.set key (.table o.current))) path

/-- Adds the item of a line to the current table. -/
def addLine (o : Outline) (path : List String) (key : String) (item : Item) : Option Outline := do
  return { o with current := ← o.current.addKey path key item }

/-- The table under a key, if it may be opened by a header: it has to be new or only mentioned. -/
def opened? (parent : Table) (key : String) : Option Table :=
  match parent.get? key with
  | none => some .empty
  | some (.table t) => if t.implicit && !t.dotted then some t else none
  | some _ => none

/-- The table that a path leads to, after the tables on the way have been made. -/
def parent? (path : List String) (root : Table) : Option Table :=
  match path with
  | [] => some root
  | key :: rest =>
    match root.get? key with
    | none => some ⟨[], true, false⟩
    | some (.table child) => parent? rest child
    | some (.tables children) => children.getLast? >>= parent? rest
    | some _ => none

/-- A header opens a table. -/
def openTable (o : Outline) (path : List String) (key : String) : Option Outline := do
  let root ← o.finish
  let table ← opened? (← parent? path root) key
  let root ← root.descend false (fun parent => some (parent.erase key)) path
  return { root, current := { table with implicit := false, dotted := false }
           name := some (path, key), repeated := false }

/-- A header opens one more table of several. -/
def openRepeated (o : Outline) (path : List String) (key : String) : Option Outline := do
  let root ← o.finish
  let root ← root.descend false (fun parent =>
    match parent.get? key with
    | none => some parent
    | some (.tables _) => some parent
    | some _ => none) path
  return { root, current := .empty, name := some (path, key), repeated := true }

end Outline

end SqlTree.Toml
