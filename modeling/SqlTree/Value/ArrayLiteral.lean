-- Arrays as one text: elements in braces, with a delimiter between them.
import SqlTree.Text.Blank
import SqlTree.Value.Text

namespace SqlTree.ArrayLiteral

/-- Whether a text spells NULL in letters of either case. -/
def spellsNull (cs : List Char) : Bool :=
  cs.map Char.toUpper == ['N', 'U', 'L', 'L']

/-- The characters that an element without quotes cannot hold. -/
def isSpecial (delimiter c : Char) : Bool :=
  c == delimiter || c == '\x7b' || c == '\x7d' || c == '"' || c == '\\' || Text.isBlank c

/-- Whether an element has to be put in quotes. -/
def needsQuotes (delimiter : Char) (cs : List Char) : Bool :=
  cs.isEmpty || spellsNull cs || cs.any (isSpecial delimiter)

/-- A character inside a quoted element: quotes and backslashes are marked by a backslash. -/
def escapeChar (c : Char) : List Char :=
  if c == '"' || c == '\\' then ['\\', c] else [c]

/-- The text of an element that is neither null nor an array. -/
def elementChars (delimiter : Char) (cs : List Char) : List Char :=
  if needsQuotes delimiter cs then '"' :: (cs.flatMap escapeChar ++ ['"']) else cs

mutual
/-- An item of an array: an array stands in braces of its own. -/
def itemChars (delimiter : Char) : Value → List Char
  | .null => ['N', 'U', 'L', 'L']
  | .array items => '\x7b' :: (itemsChars delimiter items ++ ['\x7d'])
  | v => elementChars delimiter (v.toText?.getD "").toList

/-- The items of an array, with the delimiter between them. -/
def itemsChars (delimiter : Char) : List Value → List Char
  | [] => []
  | [v] => itemChars delimiter v
  | v :: w :: rest => itemChars delimiter v ++ delimiter :: itemsChars delimiter (w :: rest)
end

/-- The literal of an array with these items. -/
def encode (delimiter : Char) (items : List Value) : String :=
  String.ofList (itemChars delimiter (.array items))

end SqlTree.ArrayLiteral
