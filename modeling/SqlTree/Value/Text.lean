-- The plain text of a value.
import SqlTree.Calendar.Printer
import SqlTree.Json.Printer
import SqlTree.Value.Basic

namespace SqlTree

/-- A number as literals show it. -/
def Double.text (d : Double) : String :=
  if d.isNaN then "NaN"
  else if d.isFinite then String.ofList (d.format Double.plain)
  else if d.isNegative then "-Infinity"
  else "Infinity"

/-- An integer in decimal. -/
def integerText (n : Int64) : String := String.ofList (Text.intDigits n.toInt)

/-- Bytes as a backslash, an `x` and two hexadecimal digits each. -/
def bytesText (data : List UInt8) : String :=
  String.ofList ('\\' :: 'x' :: data.flatMap Text.hexByte)

/-- The plain text of a value that is not null and not an array. -/
def Value.toText? : Value → Option String
  | null => none
  | bool b => some (if b then "t" else "f")
  | integer n => some (integerText n)
  | float d => some d.text
  | text s => some s
  | bytes data => some (bytesText data)
  | json j => some j.compact
  | date d => some d.text
  | timestamp t => some t.text
  | array _ => none

end SqlTree
