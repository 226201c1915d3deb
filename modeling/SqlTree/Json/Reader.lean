-- JSON text read into values. The reader takes the tokens one by one and keeps the containers that
-- are still open on a stack.
import SqlTree.Json.Token

namespace SqlTree.Json

/-- The most containers that may be open at a time. -/
def maxDepth : Nat := 127

/-- A container that is still open, with what it holds so far, in reverse. -/
inductive Frame where
  | array (done : List Json)
  /-- The value of this key is being read. -/
  | object (done : List (String × Json)) (key : String)

/-- Where a reader of tokens stands. -/
inductive Parsing where
  /-- A value must come. -/
  | value (stack : List Frame)
  /-- An array has just been opened. -/
  | first (stack : List Frame)
  /-- An object has just been opened. -/
  | firstKey (stack : List Frame)
  /-- A key must come. -/
  | key (done : List (String × Json)) (stack : List Frame)
  /-- A colon must come. -/
  | colon (done : List (String × Json)) (key : String) (stack : List Frame)
  /-- A value is complete. -/
  | after (value : Json) (stack : List Frame)

namespace Parsing

/-- A token that starts a value. -/
def start (stack : List Frame) : Token → Option Parsing
  | .openArray => if stack.length < maxDepth then some (.first stack) else none
  | .openObject => if stack.length < maxDepth then some (.firstKey stack) else none
  | .null => some (.after .null stack)
  | .bool b => some (.after (.bool b) stack)
  | .number n => some (.after (.number n) stack)
  | .string s => some (.after (.string s) stack)
  | _ => none

/-- One token further. -/
def step : Parsing → Token → Option Parsing
  | value stack, t => start stack t
  | first stack, .closeArray => some (.after (.array []) stack)
  | first stack, t => start (.array [] :: stack) t
  | firstKey stack, .closeObject => some (.after (.object []) stack)
  | firstKey stack, .string k => some (.colon [] k stack)
  | key done stack, .string k => some (.colon done k stack)
  | colon done k stack, .colon => some (.value (.object done k :: stack))
  | after v (.array done :: stack), .comma => some (.value (.array (v :: done) :: stack))
  | after v (.array done :: stack), .closeArray =>
    some (.after (.array (v :: done).reverse) stack)
  | after v (.object done k :: stack), .comma => some (.key ((k, v) :: done) stack)
  | after v (.object done k :: stack), .closeObject =>
    some (.after (.object ((k, v) :: done).reverse) stack)
  | _, _ => none

/-- The value that has been read, if the text may end here. -/
def finish? : Parsing → Option Json
  | after v [] => some v
  | _ => none

end Parsing

/-- The value that a list of tokens spells. -/
def ofTokens? (ts : List Token) : Option Json :=
  (ts.foldlM Parsing.step (.value [])) >>= Parsing.finish?

/-- Reads a text that is one JSON value. -/
def read? (text : String) : Option Json :=
  tokens? text.toList >>= ofTokens?

end SqlTree.Json
