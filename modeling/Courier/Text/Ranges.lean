/-! Sets of code points and maps between them, given by runs. -/

namespace Courier.Text

/-- Whether `n` lies in one of the ranges, ends included. -/
def inRanges (ranges : List (Nat × Nat)) (n : Nat) : Bool :=
  ranges.any fun r => r.1 ≤ n && n ≤ r.2

/-- Code points from `first` to `last`, every `step`-th one, and the distance to what stands for them. -/
structure ShiftRun where
  first : Nat
  last : Nat
  step : Nat
  shift : Int

/-- Whether the run holds a code point. -/
def ShiftRun.holds (r : ShiftRun) (n : Nat) : Bool :=
  r.first ≤ n && n ≤ r.last && (n - r.first) % r.step == 0

/-- What stands for a code point by the first run that holds it. -/
def shifted? (runs : List ShiftRun) (n : Nat) : Option Char :=
  (runs.find? fun r => r.holds n).map fun r => Char.ofNat (Int.toNat (n + r.shift))

end Courier.Text
