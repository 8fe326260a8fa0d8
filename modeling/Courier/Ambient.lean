import Courier.Duration
import Courier.Logging.Level

/-! What a call needs of its surroundings.

    A state of the surroundings of type `W` is handed from step to step. Everything that others can see
    or that they decide is an operation on it; what a call computes is ordinary data. -/

namespace Courier

/-- Surroundings with a log, a clock that can be waited on, a calendar and names for calls. -/
class Ambient (W : Type) where
  /-- Writes a log record of a part of the library. -/
  record : Logging.Level → String → String → W → W
  /-- Waits. -/
  pause : Duration → W → W
  /-- The time since some fixed moment. -/
  elapsed : W → Duration
  /-- The nanoseconds since the start of 1970. -/
  calendar : W → Nat
  /-- A name for a call, not given before: 32 hexadecimal digits. -/
  freshId : W → W × String

end Courier
