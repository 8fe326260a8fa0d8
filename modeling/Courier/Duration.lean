import Courier.Power

/-! Lengths of time.

    A duration counts whole nanoseconds up to a greatest one; sums and products that exceed it stop
    there. -/

namespace Courier

/-- The most nanoseconds a duration holds: `2^64` seconds less one nanosecond. -/
def maxNanos : Nat := twoTo 64 * tenTo 9 - 1

/-- A length of time in nanoseconds. -/
structure Duration where
  nanos : Nat
  le_max : nanos ≤ maxNanos
deriving DecidableEq

namespace Duration

/-- So many nanoseconds, or the greatest duration. -/
def ofNanos (n : Nat) : Duration := ⟨min n maxNanos, Nat.min_le_right _ _⟩

/-- No time at all. -/
def zero : Duration := ofNanos 0

/-- The greatest duration. -/
def max : Duration := ofNanos maxNanos

/-- So many milliseconds. -/
def ofMillis (n : Nat) : Duration := ofNanos (n * tenTo 6)

/-- So many seconds. -/
def ofSeconds (n : Nat) : Duration := ofNanos (n * tenTo 9)

/-- The duration so many times. -/
def times (d : Duration) (n : Nat) : Duration := ofNanos (d.nanos * n)

/-- The shorter of two. -/
def least (a b : Duration) : Duration := if a.nanos ≤ b.nanos then a else b

/-- Whether no time passes. -/
def isZero (d : Duration) : Bool := d.nanos == 0

instance : Inhabited Duration := ⟨zero⟩

/-- A fraction `part / 10^places`, with its point and without closing zeros. -/
def fractionChars (part places : Nat) : List Char :=
  let ds := (Nat.toDigits 10 part)
  let padded := List.replicate (places - ds.length) '0' ++ ds
  let kept := (padded.reverse.dropWhile (· == '0')).reverse
  if part == 0 then [] else '.' :: kept

/-- The duration in the greatest unit of which it has at least one: `1.5s`, `50ms`, `1µs`, `0ns`. -/
def text (d : Duration) : String :=
  let n := d.nanos
  let written (unit places : Nat) (name : String) :=
    String.ofList (Nat.toDigits 10 (n / unit) ++ fractionChars (n % unit) places) ++ name
  if tenTo 9 ≤ n then written (tenTo 9) 9 "s"
  else if tenTo 6 ≤ n then written (tenTo 6) 6 "ms"
  else if tenTo 3 ≤ n then written (tenTo 3) 3 "µs"
  else written 1 0 "ns"

end Duration
end Courier
