-- The values that queries hold and columns receive.
import SqlTree.Calendar.Basic
import SqlTree.Json.Basic

namespace SqlTree

inductive Value where
  | null
  | bool (b : Bool)
  | integer (n : Int64)
  | float (d : Double)
  | text (s : String)
  | bytes (data : List UInt8)
  | json (j : Json)
  | date (d : Date)
  | timestamp (t : Timestamp)
  | array (items : List Value)
deriving Repr

/-- Whether an integer has at most sixty-four bits, its sign included. -/
def fitsInt64 (n : Int) : Bool := -Int.pow 2 63 ≤ n ∧ n < Int.pow 2 63

namespace Value

def isNull : Value → Bool
  | null => true
  | _ => false

/-- The kind of a value, as messages name it. -/
def typeName : Value → String
  | null => "null"
  | bool _ => "bool"
  | integer _ => "integer"
  | float _ => "float"
  | text _ => "text"
  | bytes _ => "bytes"
  | json _ => "json"
  | date _ => "date"
  | timestamp _ => "timestamp"
  | array _ => "array"

mutual
/-- Equality of values of one kind; an integer never equals a float. -/
def same : Value → Value → Bool
  | null, null => true
  | bool a, bool b => a == b
  | integer a, integer b => a == b
  | float a, float b => a.same b
  | text a, text b => a == b
  | bytes a, bytes b => a == b
  | json a, json b => a.same b
  | date a, date b => a == b
  | timestamp a, timestamp b => a == b
  | array a, array b => sameItems a b
  | _, _ => false

def sameItems : List Value → List Value → Bool
  | [], [] => true
  | a :: as, b :: bs => same a b && sameItems as bs
  | _, _ => false
end

end Value

end SqlTree
