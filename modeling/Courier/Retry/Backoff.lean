import Courier.Duration
import Courier.Power

/-! Waiting before another attempt. -/

namespace Courier.Retry

/-- How long to wait before a retry. -/
inductive Backoff where
  | none
  | fixed (delay : Duration)
  | exponential (initial max : Duration)
deriving DecidableEq

/-- A delay doubles at most this often. -/
def maxDoublings : Nat := 31

/-- The delay before a retry, counted from one: an exponential delay doubles from retry to retry, up to
    its cap. -/
def Backoff.delay : Backoff → Nat → Duration
  | .none, _ => .zero
  | .fixed d, _ => d
  | .exponential initial max, retry => (initial.times (twoTo (min (retry - 1) maxDoublings))).least max

/-- A backoff as diagnostics show it. -/
def Backoff.quoted : Backoff → String
  | .none => "None"
  | .fixed d => "Fixed(" ++ d.text ++ ")"
  | .exponential initial max => "Exponential \x7b initial: " ++ initial.text ++ ", max: " ++ max.text ++ " \x7d"

end Courier.Retry
