-- The double nearest to a number given exactly, ties going to the even neighbour.
import SqlTree.Double.Basic
import SqlTree.Text.Digits

namespace SqlTree.Double

/-- A quotient rounded to the nearest whole number, a half to the even one. -/
def roundHalfEven (num den : Nat) : Nat :=
  let q := num / den
  let twice := 2 * (num % den)
  if twice < den || (twice == den && q % 2 == 0) then q else q + 1

/-- The largest power of two that is at most `num / den`, both being positive. -/
def floorLog2 (num den : Nat) : Int :=
  let guess : Int := Int.ofNat num.log2 - Int.ofNat den.log2
  let reached :=
    if guess ≥ 0 then den * Nat.pow 2 guess.toNat ≤ num else den ≤ num * Nat.pow 2 (-guess).toNat
  if reached then guess else guess - 1

/-- The double nearest to `num / den`: its unit is the finest that leaves at most fifty-three
bits, and what exceeds the largest finite number is infinite. -/
def nearest (negative : Bool) (num den : Nat) : Double :=
  if num = 0 then ofMagnitudeBits negative 0
  else
    let scale := max (floorLog2 num den - 52) (-1074)
    let units :=
      if scale ≥ 0 then roundHalfEven num (den * Nat.pow 2 scale.toNat)
      else roundHalfEven (num * Nat.pow 2 (-scale).toNat) den
    ofMagnitudeBits negative
      (min ((scale + 1074).toNat * Nat.pow 2 52 + units) (2047 * Nat.pow 2 52))

/-- The double nearest to an integer. -/
def ofInt (n : Int) : Double := nearest (n < 0) n.natAbs 1

/-- The double nearest to `digits * 10 ^ exponent`. Beyond the range of doubles the answer is
given without computing the power. -/
def ofDecimal (negative : Bool) (digits : Nat) (exponent : Int) : Double :=
  let magnitude := exponent + (Text.natDigits digits).length
  if digits = 0 || magnitude < -330 then ofMagnitudeBits negative 0
  else if magnitude > 310 then infinity negative
  else if exponent ≥ 0 then nearest negative (digits * Nat.pow 10 exponent.toNat) 1
  else nearest negative digits (Nat.pow 10 (-exponent).toNat)

end SqlTree.Double
