-- Decimal numerals with fraction and exponent, read as the nearest double.
import SqlTree.Double.Rounding

namespace SqlTree.Double

/-- The parts of an unsigned numeral; a part that is absent is empty. -/
structure Numeral where
  whole : List Char
  hasPoint : Bool
  fraction : List Char
  /-- What follows the exponent mark, if there is one. -/
  exponent : Option (List Char)

namespace Numeral

/-- Splits a text into the parts of a numeral, some of which may be empty. -/
def split? (cs : List Char) : Option Numeral :=
  let whole := cs.takeWhile Text.isDigit
  let rest := cs.dropWhile Text.isDigit
  let (hasPoint, fraction, rest) :=
    match rest with
    | '.' :: rest => (true, rest.takeWhile Text.isDigit, rest.dropWhile Text.isDigit)
    | rest => (false, [], rest)
  match rest with
  | [] => some { whole, hasPoint, fraction, exponent := none }
  | c :: e =>
    if c == 'e' || c == 'E' then some { whole, hasPoint, fraction, exponent := some e } else none

/-- The power of ten that an exponent part gives; an absent one gives zero. -/
def power? (n : Numeral) : Option Int :=
  match n.exponent with
  | none => some 0
  | some e => Text.readInt e

/-- The double nearest to the numeral, its exponent being known. -/
def value (n : Numeral) (negative : Bool) (power : Int) : Double :=
  ofDecimal negative (Text.numeralValue (n.whole ++ n.fraction)) (power - n.fraction.length)

end Numeral

/-- Reads a number without its sign: digits with at most one point among or around them and an
optional exponent, or the name of infinity or NaN in letters of either case. -/
def readMagnitude (negative : Bool) (cs : List Char) : Option Double :=
  let name := String.ofList (cs.map Char.toLower)
  if name == "inf" || name == "infinity" then some (infinity negative)
  else if name == "nan" then some (nan negative)
  else do
    let n ← Numeral.split? cs
    if n.whole.isEmpty && n.fraction.isEmpty then none
    else n.power?.map (n.value negative)

/-- Reads a number with an optional sign. -/
def read? : List Char → Option Double
  | '-' :: cs => readMagnitude true cs
  | '+' :: cs => readMagnitude false cs
  | cs => readMagnitude false cs

end SqlTree.Double
