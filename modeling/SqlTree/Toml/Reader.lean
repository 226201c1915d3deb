-- Configuration files read into tables.
import SqlTree.Toml.Scalar
import SqlTree.Toml.Table

namespace SqlTree.Toml

/-! ## Values -/

/-- Values separated by commas, over several lines if need be; a comma may come last. -/
def arrayItems (value : Scan Item) : Scan (List Item) := do
  let item : Scan Item := do
    gaps
    let v ← value
    gaps
    return v
  match ← optional item with
  | none => return []
  | some first =>
    let rest ← repeated (do exactly [',']; item)
    let _ ← optional (exactly [','])
    return first :: rest

/-- Keys with their values on one line, separated by commas. -/
def inlineEntries (value : Scan Item) : Scan (List ((List String × String) × Item)) := do
  let entry : Scan ((List String × String) × Item) := do
    let k ← key
    exactly ['=']
    spaces
    let v ← value
    spaces
    return (k, v)
  match ← optional entry with
  | none => return []
  | some first => return first :: (← repeated (do exactly [',']; entry))

/-- A value whose arrays and inline tables are nested at most so deep. -/
def value : Nat → Scan Item
  | 0 => scalar
  | depth + 1 =>
    (do
      exactly ['[']
      let items ← arrayItems (value depth)
      gaps
      exactly [']']
      return .array items)
    <|> (do
      exactly ['\x7b']
      let entries ← inlineEntries (value depth)
      spaces
      exactly ['\x7d']
      let table ← entries.foldlM
        (fun (t : Table) (e : (List String × String) × Item) => t.addInlineKey e.1.1 e.1.2 e.2)
        Table.empty
      return .inline table)
    <|> scalar
where
  /-- A value that holds no others. -/
  scalar : Scan Item :=
    (do return .string (← anyString))
    <|> (do number; return .other)
    <|> (do exactly ['t', 'r', 'u', 'e']; return .bool true)
    <|> (do exactly ['f', 'a', 'l', 's', 'e']; return .bool false)

/-! ## Lines -/

/-- A line: empty, a comment, the header of a table, or a key with its value. -/
def line (o : Outline) : Scan Outline := do
  spaces
  (do comment; newline <|> atEnd; return o)
  <|> (do newline; return o)
  <|> (do
    exactly ['[', '[']
    let (path, k) ← key
    exactly [']', ']']
    lineRest
    o.openRepeated path k)
  <|> (do
    notHere (exactly ['[', '['])
    exactly ['[']
    let (path, k) ← key
    exactly [']']
    lineRest
    o.openTable path k)
  <|> (do
    let (path, k) ← key
    exactly ['=']
    spaces
    let v ← value (maxNesting - 1)
    lineRest
    o.addLine path k v)

/-- The lines of a text, at most so many. -/
def lines : Nat → Outline → List Char → Option Outline
  | 0, _, _ => none
  | fuel + 1, o, cs =>
    if (cs.dropWhile isSpace).isEmpty then some o
    else match line o cs with
      | some (o, rest) => lines fuel o rest
      | none => none

/-- Reads a configuration file. Every line but an empty last one takes a character, so the length
of the text is bound enough. A byte order mark may come first. -/
def read? (text : String) : Option Table :=
  let cs := match text.toList with
    | c :: rest => if c.toNat == 0xfeff then rest else c :: rest
    | [] => []
  lines (cs.length + 1) .start cs >>= Outline.finish

end SqlTree.Toml
