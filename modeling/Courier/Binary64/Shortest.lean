import Courier.Binary64.Basic
import Courier.Power

/-! The fewest digits that read back.

    A double stands for all reals that round to it. Among the decimal grids of one, two, three …
    digits the first that has a point in this interval is taken, and of its points there the nearest
    to the double, ties going to the even digit. Seventeen digits always suffice. -/

namespace Courier.Binary64

/-- A decimal: `digits` with the point before the first of them, times `10^point`. -/
structure Decimal where
  digits : List Nat
  point : Int
deriving DecidableEq, Repr

/-- Decimal digits of a number, the last first. -/
def digitsRev : Nat → Nat → List Nat
  | 0, _ => []
  | fuel + 1, n => if n == 0 then [] else n % 10 :: digitsRev fuel (n / 10)

/-- Decimal digits of a number; none for zero. -/
def digitsOf (n : Nat) : List Nat := (digitsRev (n + 1) n).reverse

/-- The reals `num / den` with bounds `low / den` and `high / den`, ends included if `closed`. -/
structure Interval where
  num : Nat
  den : Nat
  low : Nat
  high : Nat
  closed : Bool

/-- The reals that round to `x`, in quarters of its last place so that both bounds are whole. -/
def interval (x : Binary64) : Interval :=
  let unit := twoTo x.scale
  let m := x.mantissa
  let below := if m == twoTo 52 && x.scale != 0 then 1 else 2
  { num := 4 * m * unit, den := 4 * twoTo 1074, low := (4 * m - below) * unit, high := (4 * m + 2) * unit,
    closed := m % 2 == 0 }

/-- Whether the point `p / q` lies in the interval. -/
def Interval.holds (i : Interval) (p q : Nat) : Bool :=
  let value := p * i.den
  if i.closed then i.low * q ≤ value && value ≤ i.high * q else i.low * q < value && value < i.high * q

/-- The point of the grid of step `10^step` in the interval that is nearest to its centre. -/
def Interval.onGrid (i : Interval) (step : Int) : Option Nat :=
  let up := tenTo step.toNat
  let down := tenTo (-step).toNat
  let scaled := i.num * down
  let cell := i.den * up
  let lower := scaled / cell
  let inLow := lower != 0 && i.holds (lower * up) down
  let inHigh := i.holds ((lower + 1) * up) down
  if inLow && inHigh then
    let twice := 2 * (scaled % cell)
    if twice < cell then some lower else if cell < twice then some (lower + 1)
    else some (lower + lower % 2)
  else if inLow then some lower
  else if inHigh then some (lower + 1)
  else none

/-- Tries grids of step `10^step`, then finer ones. -/
def search (i : Interval) : Nat → Int → Option (Nat × Int)
  | 0, _ => none
  | fuel + 1, step => match i.onGrid step with
    | some n => some (n, step)
    | none => search i fuel (step - 1)

/-- The power of ten just above `num / den`: the least `k` with `num / den < 10^k`, within one. -/
def magnitude (num den : Nat) : Int :=
  if den ≤ num then ((digitsOf (num / den)).length : Int)
  else 1 - ((digitsOf (den / num)).length : Int)

/-- The shortest decimal that reads back as `x`; no digits for zero. -/
def shortest (x : Binary64) : Decimal :=
  if x.isZero then ⟨[], 0⟩
  else
    let i := x.interval
    match search i 20 (magnitude i.num i.den) with
    | some (n, step) =>
      let ds := digitsOf n
      ⟨(ds.reverse.dropWhile (· == 0)).reverse, step + ds.length⟩
    | none => ⟨[], 0⟩

end Courier.Binary64
