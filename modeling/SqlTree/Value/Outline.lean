-- Values spelled out with the names of their kinds, for messages about arrays.
import SqlTree.Text.Quoted
import SqlTree.Value.Text

namespace SqlTree

/-- Texts with a comma and a space between them. -/
def commaSeparated (texts : List String) : String := ", ".intercalate texts

/-- A number as an outline shows it. -/
def Double.outlineText (d : Double) : String :=
  if d.isNaN then "NaN"
  else if d.isFinite then String.ofList (d.format Double.outline)
  else if d.isNegative then "-inf"
  else "inf"

namespace Json

mutual
/-- A JSON value spelled out. -/
def outline : Json → String
  | null => "Null"
  | bool b => "Bool(" ++ (if b then "true" else "false") ++ ")"
  | number n => "Number(" ++ String.ofList n.chars ++ ")"
  | string s => "String(" ++ Text.quoted s ++ ")"
  | array items => "Array [" ++ commaSeparated (outlineItems items) ++ "]"
  | object fields => "Object \x7b" ++ commaSeparated (outlineFields fields) ++ "\x7d"

def outlineItems : List Json → List String
  | [] => []
  | j :: js => outline j :: outlineItems js

def outlineFields : List (String × Json) → List String
  | [] => []
  | (k, j) :: rest => (Text.quoted k ++ ": " ++ outline j) :: outlineFields rest
end

end Json

namespace Value

mutual
/-- A value spelled out. -/
def outline : Value → String
  | null => "Null"
  | bool b => "Bool(" ++ (if b then "true" else "false") ++ ")"
  | integer n => "Integer(" ++ integerText n ++ ")"
  | float d => "Float(" ++ d.outlineText ++ ")"
  | text s => "Text(" ++ Text.quoted s ++ ")"
  | bytes data =>
    "Bytes([" ++ commaSeparated (data.map fun b => String.ofList (Text.natDigits b.toNat)) ++ "])"
  | json j => "Json(" ++ j.outline ++ ")"
  | date d => "Date(" ++ d.text ++ ")"
  | timestamp t => "Timestamp(" ++ t.isoText ++ ")"
  | array items => "Array([" ++ commaSeparated (outlineItems items) ++ "])"

def outlineItems : List Value → List String
  | [] => []
  | v :: vs => outline v :: outlineItems vs
end

/-- What a message about a value shows of it: its text, or an outline if it has none. -/
def shown (v : Value) : String := v.toText?.getD v.outline

end Value

end SqlTree
