-- The smallest parts of a configuration file: white space, comments, strings and keys.
import SqlTree.Text.Digits

namespace SqlTree.Toml

/-! ## Readers -/

/-- A reader takes what it knows off the front of a text. -/
abbrev Scan := StateT (List Char) Option

/-- The next character, if it passes a test. -/
def one (test : Char → Bool) : Scan Char := fun cs =>
  match cs with
  | c :: rest => if test c then some (c, rest) else none
  | [] => none

/-- All characters up to the first that fails a test. -/
def many (test : Char → Bool) : Scan (List Char) := fun cs =>
  some (cs.takeWhile test, cs.dropWhile test)

/-- These very characters. -/
def exactly : List Char → Scan Unit
  | [] => pure ()
  | c :: cs => do
    let _ ← one (· == c)
    exactly cs

/-- Fails where another reader would succeed, and takes nothing. -/
def notHere {α : Type} (p : Scan α) : Scan Unit := fun cs =>
  match p cs with
  | some _ => none
  | none => some ((), cs)

/-- A part that may be absent. -/
def optional {α : Type} (p : Scan α) : Scan (Option α) := (some <$> p) <|> pure none

/-- A part as often as it comes, at most so many times. -/
def upTo {α : Type} (p : Scan α) : Nat → Scan (List α)
  | 0 => pure []
  | n + 1 => (do
      let a ← p
      let rest ← upTo p n
      return a :: rest) <|> pure []

/-- A part as often as it comes. A part is at least one character long, so the length of the text
is bound enough. -/
def repeated {α : Type} (p : Scan α) : Scan (List α) := fun cs => upTo p cs.length cs

/-! ## White space and comments -/

/-- Whether a character is white space inside a line. -/
def isSpace (c : Char) : Bool := c == ' ' || c == '\t'

/-- White space inside a line. -/
def spaces : Scan Unit := do let _ ← many isSpace

/-- The end of a line. -/
def newline : Scan Unit := exactly ['\n'] <|> exactly ['\r', '\n']

/-- Whether a character may stand in a line: no control may but the tab. -/
def isLineChar (c : Char) : Bool := c == '\t' || (0x20 ≤ c.toNat && c.toNat != 0x7f)

/-- A comment, without the end of its line. -/
def comment : Scan Unit := do
  exactly ['#']
  let _ ← many isLineChar

/-- The end of the text. -/
def atEnd : Scan Unit := fun cs => if cs.isEmpty then some ((), cs) else none

/-- What may follow on a line: white space and a comment. -/
def lineRest : Scan Unit := do
  spaces
  let _ ← optional comment
  newline <|> atEnd

/-- White space, line ends, and comments with the ends of their lines. -/
def gaps : Scan Unit := do
  let _ ← repeated ((do let _ ← one isSpace) <|> newline <|> (do comment; newline))

/-! ## Strings -/

/-- The character whose code point has so many hexadecimal digits here. -/
def codePoint (digits : Nat) : Scan Char := fun cs => do
  let ds := cs.take digits
  let n ← ds.foldlM (fun n c => do return 16 * n + (← Text.hexValue? c)) 0
  if ds.length == digits && n.isValidChar then some (Char.ofNat n, cs.drop digits) else none

/-- A character given by an escape. -/
def escape : Scan Char := do
  exactly ['\\']
  let c ← one fun _ => true
  match c with
  | 'b' => return '\x08'
  | 't' => return '\t'
  | 'n' => return '\n'
  | 'f' => return '\x0c'
  | 'r' => return '\r'
  | '"' => return '"'
  | '\\' => return '\\'
  | 'u' => codePoint 4
  | 'U' => codePoint 8
  | _ => failure

/-- A string in double quotes on one line. -/
def basicString : Scan (List Char) := do
  exactly ['"']
  let cs ← repeated (one (fun c => isLineChar c && c != '"' && c != '\\') <|> escape)
  exactly ['"']
  return cs

/-- A string in single quotes on one line, in which nothing is escaped. -/
def literalString : Scan (List Char) := do
  exactly ['\'']
  let cs ← many fun c => isLineChar c && c != '\''
  exactly ['\'']
  return cs

/-- A string over several lines, in three quotes at both ends. A line end right after the opening
quotes does not count, and one or two quotes may come right before the closing ones. -/
def longString (quote : Char) (part : Scan (List Char)) : Scan (List Char) := do
  let quotes := List.replicate 3 quote
  exactly quotes
  let _ ← optional newline
  let parts ← repeated (do
    notHere (exactly quotes)
    part <|> (do exactly [quote]; return [quote]))
  let extra ← (do exactly (List.replicate 5 quote); return [quote, quote])
    <|> (do exactly (List.replicate 4 quote); return [quote])
    <|> (do exactly quotes; return [])
  return parts.flatten ++ extra

/-- A backslash at the end of a line takes the line end and the white space after it away. -/
def escapedNewline : Scan Unit := do
  exactly ['\\']
  spaces
  newline
  let _ ← repeated ((do let _ ← one isSpace) <|> newline)

/-- A string over several lines with escapes. -/
def longBasicString : Scan (List Char) :=
  longString '"' ((do return [← one fun c => isLineChar c && c != '"' && c != '\\'])
    <|> (do newline; return ['\n'])
    <|> (do escapedNewline; return [])
    <|> (do return [← escape]))

/-- A string over several lines, in which nothing is escaped. -/
def longLiteralString : Scan (List Char) :=
  longString '\'' ((do return [← one fun c => isLineChar c && c != '\''])
    <|> (do newline; return ['\n']))

/-- A string in any of the four forms. -/
def anyString : Scan String := do
  let cs ← longBasicString <|> longLiteralString <|> basicString <|> literalString
  return String.ofList cs

/-! ## Keys -/

/-- Whether a character can stand in a key without quotes. -/
def isBareKeyChar (c : Char) : Bool :=
  ('A' ≤ c && c ≤ 'Z') || ('a' ≤ c && c ≤ 'z') || Text.isDigit c || c == '-' || c == '_'

/-- One part of a key. -/
def simpleKey : Scan String := do
  let cs ← basicString <|> literalString <|> (do
    let c ← one isBareKeyChar
    return c :: (← many isBareKeyChar))
  return String.ofList cs

/-- Values and the names of tables are nested less deep than this. -/
def maxNesting : Nat := 80

/-- A key with the path that leads to it. -/
def key : Scan (List String × String) := do
  let part : Scan String := do
    spaces
    let k ← simpleKey
    spaces
    return k
  let first ← part
  let rest ← repeated (do exactly ['.']; part)
  match (first :: rest).reverse with
  | last :: path => if path.length + 1 < maxNesting then return (path.reverse, last) else failure
  | [] => failure

end SqlTree.Toml
