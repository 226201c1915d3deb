-- The fewest decimal digits that read back as a given double. All comparisons are made in exact
-- integer arithmetic on the number's units.
import SqlTree.Double.Basic
import SqlTree.Text.Digits

namespace SqlTree.Double

/-- Which of two decimals that are equally near is taken. -/
inductive Tie where
  | up
  | even
deriving DecidableEq, Repr

/-- The decimal `0.digits * 10 ^ point`. -/
structure Decimal where
  digits : List Char
  point : Int
deriving DecidableEq, Repr

/-- The decimal grid of step `10 ^ k` laid over a double: four units of the double are
`unit * 4`, a step of the grid is `step`, and both are counted in one common measure. -/
structure Grid where
  step : Nat
  unit : Nat

namespace Grid

/-- The grid of step `10 ^ k` over numbers with quarter units of `2 ^ q`. -/
def ofPowers (q k : Int) : Grid :=
  { step := Nat.pow 10 k.toNat * Nat.pow 2 (-q).toNat
    unit := Nat.pow 10 (-k).toNat * Nat.pow 2 q.toNat }

end Grid

/-- The reals that round to a double, in quarter units: from `low` to `high`, the ends counting
only when `closed`. -/
structure Basin where
  low : Nat
  mid : Nat
  high : Nat
  closed : Bool

/-- The basin of a positive finite double. Below a power of two the neighbours are twice as
close. -/
def basin (d : Double) : Basin :=
  let m := d.units
  let low := if d.fraction = 0 && d.exponentField > 1 then 4 * m - 1 else 4 * m - 2
  { low, mid := 4 * m, high := 4 * m + 2, closed := m % 2 == 0 }

namespace Basin

/-- The point of the grid that stands for the double, if the basin holds one: of its two
neighbours there the nearer one. -/
def pick? (b : Basin) (tie : Tie) (g : Grid) : Option Nat :=
  let below := b.mid * g.unit / g.step
  let above := below + 1
  let belowIn :=
    if b.closed then b.low * g.unit ≤ below * g.step else b.low * g.unit < below * g.step
  let aboveIn :=
    if b.closed then above * g.step ≤ b.high * g.unit else above * g.step < b.high * g.unit
  let twiceMid := 2 * (b.mid * g.unit)
  let twiceHalf := (below + above) * g.step
  if belowIn && aboveIn then
    if twiceMid < twiceHalf then some below
    else if twiceMid > twiceHalf then some above
    else match tie with
      | .up => some above
      | .even => some (if below % 2 = 0 then below else above)
  else if belowIn then some below
  else if aboveIn then some above
  else none

/-- The first pick on ever finer grids: `tries` of them, from the step `10 ^ k` on. -/
def firstPick (b : Basin) (tie : Tie) (q : Int) : Nat → Int → Nat × Int
  | 0, k => (b.mid * (Grid.ofPowers q k).unit / (Grid.ofPowers q k).step, k)
  | tries + 1, k =>
    match b.pick? tie (Grid.ofPowers q k) with
    | some n => (n, k)
    | none => firstPick b tie q tries (k - 1)

end Basin

/-- The number of digits before the point of a positive double, or minus the number of zeros after
it: the power of ten above the double. -/
def pointPosition (d : Double) : Int :=
  let guess := (Int.ofNat d.units.log2 + d.scale) * 30103 / 100000
  let g := Grid.ofPowers (d.scale - 2) guess
  let next := Grid.ofPowers (d.scale - 2) (guess + 1)
  if next.step ≤ 4 * d.units * next.unit then guess + 2
  else if g.step ≤ 4 * d.units * g.unit then guess + 1
  else guess

/-- The shortest decimal of the magnitude of a finite double. -/
def shortest (tie : Tie) (d : Double) : Decimal :=
  if d.units = 0 then { digits := ['0'], point := 1 }
  else
    let (n, k) := d.basin.firstPick tie (d.scale - 2) 17 (d.pointPosition - 1)
    let ds := Text.natDigits n
    { digits := (ds.reverse.dropWhile (· == '0')).reverse, point := k + ds.length }

end SqlTree.Double
