-- How the digits of a double are laid out as text.
import SqlTree.Double.Shortest

namespace SqlTree.Double

/-- The decisions of a number format. -/
structure Layout where
  tie : Tie
  /-- Written after a whole number. -/
  whole : List Char
  /-- The powers of ten of the leading digit that are written without an exponent: from the first
  up to, and without, the second. Without this all are. -/
  positional : Option (Int × Int)
  /-- Written between digits and an exponent that is not negative. -/
  mark : List Char

namespace Decimal

/-- Digits around a decimal point. -/
def positional (whole : List Char) (d : Decimal) : List Char :=
  if d.point ≤ 0 then
    '0' :: '.' :: (List.replicate (-d.point).toNat '0' ++ d.digits)
  else
    let n := d.point.toNat
    if d.digits.length ≤ n then
      d.digits ++ List.replicate (n - d.digits.length) '0' ++ whole
    else d.digits.take n ++ '.' :: d.digits.drop n

/-- One digit before the point, and an exponent. -/
def scientific (mark : List Char) (d : Decimal) : List Char :=
  let lead := d.digits.take 1
  let rest := d.digits.drop 1
  let exponent := d.point - 1
  lead ++ (if rest.isEmpty then [] else '.' :: rest)
    ++ (if exponent < 0 then 'e' :: Text.intDigits exponent else mark ++ Text.intDigits exponent)

end Decimal

/-- A finite double as a format writes it. -/
def format (l : Layout) (d : Double) : List Char :=
  let decimal := d.shortest l.tie
  let body :=
    match l.positional with
    | none => decimal.positional l.whole
    | some (low, high) =>
      if low ≤ decimal.point - 1 && decimal.point - 1 < high then decimal.positional l.whole
      else decimal.scientific l.mark
  if d.isNegative then '-' :: body else body

/-! ## The formats in use -/

/-- Literals and messages: never an exponent, whole numbers bare. -/
def plain : Layout := { tie := .up, whole := [], positional := none, mark := [] }

/-- JSON: `1.0`, and an exponent from `1e+16` on and below `0.00001`. -/
def json : Layout :=
  { tie := .even, whole := ['.', '0'], positional := some (-5, 16), mark := ['e', '+'] }

/-- Outlines of values: `1.0`, and an exponent from `1e16` on and below `0.0001`. -/
def outline : Layout :=
  { tie := .up, whole := ['.', '0'], positional := some (-4, 16), mark := ['e'] }

end SqlTree.Double
