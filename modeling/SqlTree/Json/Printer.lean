-- JSON text: compact, and indented by two spaces a level.
import SqlTree.Double.Layout
import SqlTree.Json.Basic

namespace SqlTree.Json

/-! ## Strings and numbers -/

/-- A character inside a JSON string: quotes, backslashes and controls are escaped. -/
def escapeChar (c : Char) : List Char :=
  if c == '"' then ['\\', '"']
  else if c == '\\' then ['\\', '\\']
  else if c == '\n' then ['\\', 'n']
  else if c == '\r' then ['\\', 'r']
  else if c == '\t' then ['\\', 't']
  else if c == '\x08' then ['\\', 'b']
  else if c == '\x0c' then ['\\', 'f']
  else if c.toNat < 0x20 then
    ['\\', 'u', '0', '0', Nat.digitChar (c.toNat / 16), Nat.digitChar (c.toNat % 16)]
  else [c]

def stringChars (s : String) : List Char :=
  '"' :: (s.toList.flatMap escapeChar ++ ['"'])

def Number.chars : Number → List Char
  | .int n => Text.intDigits n
  | .double d => d.format Double.json

/-- The text of a value that holds no others; empty for the two that do. -/
def scalarChars : Json → List Char
  | null => ['n', 'u', 'l', 'l']
  | bool true => ['t', 'r', 'u', 'e']
  | bool false => ['f', 'a', 'l', 's', 'e']
  | number n => n.chars
  | string s => stringChars s
  | array _ => []
  | object _ => []

/-! ## Compact text -/

mutual
/-- The text of a value without any white space. -/
def compactChars : Json → List Char
  | array items => '[' :: (compactItems items ++ [']'])
  | object fields => '\x7b' :: (compactFields fields ++ ['\x7d'])
  | scalar => scalarChars scalar

def compactItems : List Json → List Char
  | [] => []
  | [j] => compactChars j
  | j :: k :: rest => compactChars j ++ ',' :: compactItems (k :: rest)

/-- The keys and values of an object with commas between them. -/
def compactFields : List (String × Json) → List Char
  | [] => []
  | [(key, j)] => stringChars key ++ ':' :: compactChars j
  | (key, j) :: field :: rest =>
    stringChars key ++ ':' :: (compactChars j ++ ',' :: compactFields (field :: rest))
end

def compact (j : Json) : String := String.ofList (compactChars j)

/-! ## Indented text -/

/-- A new line, indented to a level. -/
def newline (level : Nat) : List Char := '\n' :: List.replicate (2 * level) ' '

mutual
/-- The text of a value whose first line starts at a level. -/
def indentedChars (level : Nat) : Json → List Char
  | array [] => ['[', ']']
  | array (j :: js) => '[' :: (indentedItems (level + 1) (j :: js) ++ newline level ++ [']'])
  | object [] => ['\x7b', '\x7d']
  | object (f :: fs) =>
    '\x7b' :: (indentedFields (level + 1) (f :: fs) ++ newline level ++ ['\x7d'])
  | scalar => scalarChars scalar

/-- The items of an array, each on a line of its own. -/
def indentedItems (level : Nat) : List Json → List Char
  | [] => []
  | [j] => newline level ++ indentedChars level j
  | j :: k :: rest =>
    newline level ++ indentedChars level j ++ ',' :: indentedItems level (k :: rest)

/-- The keys and values of an object, each pair on a line of its own. -/
def indentedFields (level : Nat) : List (String × Json) → List Char
  | [] => []
  | [(key, j)] => newline level ++ stringChars key ++ ':' :: ' ' :: indentedChars level j
  | (key, j) :: field :: rest =>
    newline level ++ stringChars key ++ ':' :: ' ' :: indentedChars level j
      ++ ',' :: indentedFields level (field :: rest)
end

def indented (j : Json) : String := String.ofList (indentedChars 0 j)

end SqlTree.Json
