-- Values as JSON, and JSON as values.
import SqlTree.Double.Rounding
import SqlTree.Value.Text

namespace SqlTree

/-- The JSON number of a double; there is none for NaN and the infinities. -/
def Double.toJson (d : Double) : Json :=
  if d.isFinite then .number (.double d) else .null

namespace Value

mutual
/-- The JSON that a JSON column receives: bytes, dates and timestamps by their text. -/
def toJson : Value → Json
  | null => .null
  | bool b => .bool b
  | integer n => .number (.int n.toInt)
  | float d => d.toJson
  | text s => .string s
  | bytes data => .string (bytesText data)
  | json j => j
  | date d => .string d.text
  | timestamp t => .string t.text
  | array items => .array (toJsonItems items)

def toJsonItems : List Value → List Json
  | [] => []
  | v :: vs => toJson v :: toJsonItems vs
end

mutual
/-- The JSON of a value in a list of bound values: bytes as numbers, timestamps in ISO form. -/
def boundJson : Value → Json
  | null => .null
  | bool b => .bool b
  | integer n => .number (.int n.toInt)
  | float d => d.toJson
  | text s => .string s
  | bytes data => .array (data.map fun b => .number (.int b.toNat))
  | json j => j
  | date d => .string d.text
  | timestamp t => .string t.isoText
  | array items => .array (boundJsonItems items)

def boundJsonItems : List Value → List Json
  | [] => []
  | v :: vs => boundJson v :: boundJsonItems vs
end

mutual
/-- The value of a canonical JSON value: whole numbers of at most sixty-four bits with their sign
are integers, all others floats, and objects stay JSON. -/
def ofJson : Json → Value
  | .null => null
  | .bool b => bool b
  | .number (.int n) =>
    if fitsInt64 n then integer (Int64.ofInt n) else float (Double.ofInt n)
  | .number (.double d) => float d
  | .string s => text s
  | .array items => array (ofJsonItems items)
  | .object fields => json (.object fields)

def ofJsonItems : List Json → List Value
  | [] => []
  | j :: js => ofJson j :: ofJsonItems js
end

end Value

end SqlTree
