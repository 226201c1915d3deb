-- JSON values. An object keeps its fields as they are written; its canonical form has each key
-- once, in the order of code points.
import SqlTree.Double.Basic

namespace SqlTree

/-- A JSON number: whole numbers are kept exactly, all others as doubles. -/
inductive Json.Number where
  | int (n : Int)
  | double (d : Double)
deriving DecidableEq, Repr

/-- A JSON value. Objects keep their keys in order, repeated ones too. -/
inductive Json where
  | null
  | bool (b : Bool)
  | number (n : Json.Number)
  | string (s : String)
  | array (items : List Json)
  | object (fields : List (String × Json))
deriving Repr

namespace Json

/-! ## Canonical objects -/

/-- Puts a field into fields sorted by key; the field that had the key gives way. -/
def insertField (key : String) (value : Json) : List (String × Json) → List (String × Json)
  | [] => [(key, value)]
  | (k, v) :: rest =>
    if key < k then (key, value) :: (k, v) :: rest
    else if key == k then (key, value) :: rest
    else (k, v) :: insertField key value rest

mutual
/-- The value with every object sorted by key, the last of equal keys kept. -/
def canonical : Json → Json
  | null => null
  | bool b => bool b
  | number n => number n
  | string s => string s
  | array items => array (canonicalItems items)
  | object fields => object (canonicalFields [] fields)

def canonicalItems : List Json → List Json
  | [] => []
  | j :: js => canonical j :: canonicalItems js

/-- Fields in canonical form, added to sorted ones. -/
def canonicalFields (sorted : List (String × Json)) : List (String × Json) → List (String × Json)
  | [] => sorted
  | (k, v) :: rest => canonicalFields (insertField k (canonical v) sorted) rest
end

/-! ## Equality -/

/-- Numbers are equal if they are of one kind and have one value. -/
def Number.same : Number → Number → Bool
  | .int a, .int b => a == b
  | .double a, .double b => a.same b
  | _, _ => false

mutual
def same : Json → Json → Bool
  | null, null => true
  | bool a, bool b => a == b
  | number a, number b => a.same b
  | string a, string b => a == b
  | array a, array b => sameItems a b
  | object a, object b => sameFields a b
  | _, _ => false

def sameItems : List Json → List Json → Bool
  | [], [] => true
  | a :: as, b :: bs => same a b && sameItems as bs
  | _, _ => false

def sameFields : List (String × Json) → List (String × Json) → Bool
  | [], [] => true
  | (k, a) :: as, (l, b) :: bs => k == l && same a b && sameFields as bs
  | _, _ => false
end

end Json

end SqlTree
