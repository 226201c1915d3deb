-- Texts as messages show them: in double quotes, with everything that does not show by itself
-- written by number.
import SqlTree.Text.Digits
import SqlTree.Text.Ranges
import SqlTree.Text.UnseenTable

namespace SqlTree.Text

/-- Whether a character shows by itself. -/
def isSeen (c : Char) : Bool :=
  let n := c.toNat
  if n < 0x7f then 0x20 ≤ n else !inRanges unseenRanges n

/-- A character inside a quoted message. -/
def quoteChar (c : Char) : List Char :=
  if c == '\x00' then ['\\', '0']
  else if c == '\t' then ['\\', 't']
  else if c == '\r' then ['\\', 'r']
  else if c == '\n' then ['\\', 'n']
  else if c == '"' then ['\\', '"']
  else if c == '\\' then ['\\', '\\']
  else if isSeen c then [c]
  else '\\' :: 'u' :: '\x7b' :: (hexDigits c.toNat ++ ['\x7d'])

/-- A text as a message quotes it. -/
def quoted (s : String) : String :=
  String.ofList ('"' :: (s.toList.flatMap quoteChar ++ ['"']))

end SqlTree.Text
