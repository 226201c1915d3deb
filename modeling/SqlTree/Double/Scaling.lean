-- Powers of ten applied by products and quotients of doubles, each of which is rounded: what a
-- fast reader of decimals computes, which is not always the double nearest to the numeral.
import SqlTree.Double.Rounding

namespace SqlTree.Double

/-- The magnitude of a finite number, counted in the smallest unit that there is. -/
def smallestUnits (d : Double) : Nat := d.units * Nat.pow 2 (d.scale + 1074).toNat

def powerOfTen (n : Nat) : Double := nearest false (Nat.pow 10 n) 1

/-- The product of the magnitudes of two finite numbers, rounded. -/
def times (a b : Double) : Double :=
  nearest false (a.smallestUnits * b.smallestUnits) (Nat.pow 2 2148)

/-- The quotient of the magnitudes of two finite numbers, rounded. -/
def dividedBy (a b : Double) : Double := nearest false a.smallestUnits b.smallestUnits

/-- The exponent of the largest power of ten that is a finite double. -/
def maxPower : Nat := 308

/-- Divides by the largest power of ten so many times, or until nothing is left. -/
def shrink (d : Double) : Nat → Double
  | 0 => d
  | count + 1 => if d.isZero then d else (d.dividedBy (powerOfTen maxPower)).shrink count

/-- `d * 10 ^ exponent` for a whole number `d`, rounded at each step, unless it is infinite. -/
def scaled? (d : Double) (exponent : Int) : Option Double :=
  let power := exponent.natAbs
  if exponent < 0 then
    -- Whole steps of the largest power go first, and what is left is one more quotient.
    let steps := (power - 1) / maxPower
    some ((d.shrink steps).dividedBy (powerOfTen (power - maxPower * steps)))
  else if power ≤ maxPower then
    let product := d.times (powerOfTen power)
    if product.isFinite then some product else none
  else if d.isZero then some d
  else none

end SqlTree.Double
