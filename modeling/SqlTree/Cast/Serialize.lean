-- Casting: the form in which a column receives a value.
import SqlTree.Calendar.Reader
import SqlTree.Cast.Caster
import SqlTree.Cast.Error
import SqlTree.Double.Reader
import SqlTree.Text.Lowercase
import SqlTree.Value.ArrayLiteral
import SqlTree.Value.Json

namespace SqlTree

/-! ## Integers -/

namespace Width

/-- One more than the largest integer of the width. -/
def bound (w : Width) : Int := Int.pow 2 (8 * w.bytes - 1)

/-- The integer as a value of the width. -/
def check (w : Width) (n : Int) : Except CastError Value :=
  if -w.bound ≤ n ∧ n < w.bound then .ok (.integer (Int64.ofInt n))
  else .error (.outOfRange (String.ofList (Text.intDigits n)) w.sqlType)

/-- Whole numbers of every kind are taken; a text has to be a signed numeral. -/
def serialize (w : Width) : Value → Except CastError Value
  | .null => .ok .null
  | .integer n => w.check n.toInt
  | .bool b => .ok (.integer (if b then 1 else 0))
  | .float d =>
    match d.toInt? with
    | some n => if fitsInt64 n then w.check n else .error (.outOfRange d.text w.sqlType)
    | none => .error (.invalid (.float d) w.sqlType)
  | .text s =>
    match Text.readInt (Text.trimChars s.toList) with
    | some n => if fitsInt64 n then w.check n else .error (.invalid (.text s) w.sqlType)
    | none => .error (.invalid (.text s) w.sqlType)
  | v => .error (.invalid v w.sqlType)

end Width

namespace Caster

/-! ## The other scalars -/

/-- The value that a text reads as, or an error. -/
def orInvalid (sqlType : String) (v : Value) : Option Value → Except CastError Value
  | some w => .ok w
  | none => .error (.invalid v sqlType)

/-- Numbers are taken; a text has to be a numeral. -/
def serializeFloat : Value → Except CastError Value
  | .null => .ok .null
  | .float d => .ok (.float d)
  | .integer n => .ok (.float (Double.ofInt n.toInt))
  | .text s =>
    orInvalid "float8" (.text s) ((Double.read? (Text.trimChars s.toList)).map .float)
  | v => .error (.invalid v "float8")

/-- The truth value that a lower-case word stands for. -/
def readBool? (word : String) : Option Bool :=
  if ["t", "true", "y", "yes", "on", "1"].contains word then some true
  else if ["f", "false", "n", "no", "off", "0"].contains word then some false
  else none

/-- Truth values, zero and one are taken; a text has to be a word for one of them. -/
def serializeBoolean : Value → Except CastError Value
  | .null => .ok .null
  | .bool b => .ok (.bool b)
  | .integer n =>
    if n = 0 then .ok (.bool false)
    else if n = 1 then .ok (.bool true)
    else .error (.invalid (.integer n) "boolean")
  | .text s =>
    orInvalid "boolean" (.text s) ((readBool? (Text.lowercase (Text.trim s))).map .bool)
  | v => .error (.invalid v "boolean")

/-- Everything with a plain text is taken, bytes apart. -/
def serializeText : Value → Except CastError Value
  | .null => .ok .null
  | .text s => .ok (.text s)
  | .bytes data => .error (.invalid (.bytes data) "text")
  | .array items => .error (.invalid (.array items) "text")
  | v => .ok (.text (v.toText?.getD ""))

/-- Dates are taken, and of timestamps the date; a text has to be a date. -/
def serializeDate : Value → Except CastError Value
  | .null => .ok .null
  | .date d => .ok (.date d)
  | .timestamp t => .ok (.date t.date)
  | .text s =>
    orInvalid "date" (.text s) ((Date.read? (Text.trimChars s.toList)).map .date)
  | v => .error (.invalid v "date")

/-- Timestamps are taken, and dates as their midnight; a text has to be a timestamp. -/
def serializeTimestamp : Value → Except CastError Value
  | .null => .ok .null
  | .timestamp t => .ok (.timestamp t)
  | .date d => .ok (.timestamp d.midnight)
  | .text s =>
    orInvalid "timestamp" (.text s) ((Timestamp.read? (Text.trimChars s.toList)).map .timestamp)
  | v => .error (.invalid v "timestamp")

/-- Bytes are taken, and of texts the bytes of their encoding. -/
def serializeBytea : Value → Except CastError Value
  | .null => .ok .null
  | .bytes data => .ok (.bytes data)
  | .text s => .ok (.bytes s.toUTF8.data.toList)
  | v => .error (.invalid v "bytea")

/-- Everything but bytes is taken, and received as JSON text. -/
def serializeJson (sqlType : String) : Value → Except CastError Value
  | .null => .ok .null
  | .bytes data => .error (.invalid (.bytes data) sqlType)
  | v => .ok (.text v.toJson.compact)

/-! ## Arrays -/

mutual
/-- Casts the leaves of an array, however deep they lie. -/
def castLeaves (cast : Value → Except CastError Value) : Value → Except CastError Value
  | .array items => do return .array (← castItems cast items)
  | leaf => cast leaf

/-- Casts the leaves of the items from left to right. -/
def castItems (cast : Value → Except CastError Value) :
    List Value → Except CastError (List Value)
  | [] => .ok []
  | v :: vs => do return (← castLeaves cast v) :: (← castItems cast vs)
end

/-- An array becomes a literal of its cast items; a text is taken for a literal already. -/
def serializeArray (cast : Value → Except CastError Value) (delimiter : Char)
    (sqlType : String) : Value → Except CastError Value
  | .null => .ok .null
  | .array items => do return .text (ArrayLiteral.encode delimiter (← castItems cast items))
  | .text literal => .ok (.text literal)
  | v => .error (.invalid v sqlType)

/-! ## All casters -/

/-- The value that a column receives for a value. -/
def serialize : Caster → Value → Except CastError Value
  | integer w => w.serialize
  | float => serializeFloat
  | boolean => serializeBoolean
  | text => serializeText
  | date => serializeDate
  | timestamp => serializeTimestamp
  | bytea => serializeBytea
  | json => serializeJson "json"
  | jsonb => serializeJson "jsonb"
  | array element delimiter =>
    serializeArray element.serialize delimiter (element.sqlType ++ "[]")

/-- Whether a value may match the column at all: only a number out of range may not. -/
def isSerializable (c : Caster) (v : Value) : Bool :=
  match c.serialize v with
  | .ok _ => true
  | .error e => !e.isOutOfRange

end Caster

end SqlTree
