-- Double-precision numbers by their bits: a sign, eleven bits of exponent, fifty-two of fraction.
-- A finite one is a whole number of units, each a power of two, so all questions about it are
-- answered in exact integer arithmetic.
namespace SqlTree

/-- A double-precision number. -/
structure Double where
  bits : UInt64
deriving DecidableEq, Repr

namespace Double

/-! ## The fields -/

/-- Whether the sign bit is set. -/
def isNegative (d : Double) : Bool := Nat.pow 2 63 ≤ d.bits.toNat

/-- The eleven bits of exponent. -/
def exponentField (d : Double) : Nat := d.bits.toNat / Nat.pow 2 52 % Nat.pow 2 11

/-- The fifty-two bits of fraction. -/
def fraction (d : Double) : Nat := d.bits.toNat % Nat.pow 2 52

/-- Whether a number is neither infinite nor NaN. -/
def isFinite (d : Double) : Bool := d.exponentField != 2047

/-- Whether a number stands for none. -/
def isNaN (d : Double) : Bool := d.exponentField == 2047 && d.fraction != 0

/-! ## The value of a finite number -/

/-- How many units the magnitude of a finite number has. -/
def units (d : Double) : Nat :=
  if d.exponentField = 0 then d.fraction else d.fraction + Nat.pow 2 52

/-- The unit of a finite number is two to this power. -/
def scale (d : Double) : Int := Int.ofNat (max d.exponentField 1) - 1075

/-- Whether a number is one of the two zeros. -/
def isZero (d : Double) : Bool := d.isFinite && d.units == 0

/-- The magnitude of a finite number, if it is whole. -/
def wholeMagnitude? (d : Double) : Option Nat :=
  if d.scale ≥ 0 then some (d.units * Nat.pow 2 d.scale.toNat)
  else
    let parts := Nat.pow 2 (-d.scale).toNat
    if d.units % parts = 0 then some (d.units / parts) else none

/-- The integer that a number equals, if there is one. -/
def toInt? (d : Double) : Option Int :=
  if d.isFinite then
    d.wholeMagnitude?.map fun n => if d.isNegative then -(n : Int) else n
  else none

/-- Equality of values: the two zeros are equal, and a NaN equals nothing. -/
def same (a b : Double) : Bool :=
  !a.isNaN && !b.isNaN && (a == b || (a.isZero && b.isZero))

/-! ## Making numbers -/

/-- The number with this sign and these other bits. -/
def ofMagnitudeBits (negative : Bool) (bits : Nat) : Double :=
  ⟨UInt64.ofNat (if negative then bits + Nat.pow 2 63 else bits)⟩

/-- The infinity of a sign. -/
def infinity (negative : Bool) : Double := ofMagnitudeBits negative (2047 * Nat.pow 2 52)

/-- A NaN with a sign. -/
def nan (negative : Bool) : Double :=
  ofMagnitudeBits negative (2047 * Nat.pow 2 52 + Nat.pow 2 51)

end Double

end SqlTree
