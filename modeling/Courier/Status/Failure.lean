import Courier.Codec
import Courier.Http.Date
import Courier.Http.Reason
import Courier.Power

/-! The standard failure of a status.

    It names method, status and the standard words for it, and keeps a body that is not empty. For 429
    and 503 it keeps the delay that the server asks for: whole seconds, or the time until a date. -/

namespace Courier.Status

/-- The name of the header that asks for a delay. -/
def retryAfterName : Http.HeaderName := ⟨"retry-after"⟩

/-- A natural number of 64 bits in decimal digits, a plus sign allowed. -/
def wordOf (cs : List Char) : Option Nat :=
  let digits := match cs with
    | '+' :: rest => rest
    | _ => cs
  if digits.isEmpty then none
  else match Http.Date.number? digits with
    | some n => if n < twoTo 64 then some n else none
    | none => none

/-- The time from the calendar's moment to a date; none if it is past. -/
def untilDate (calendar : Nat) (d : Http.Date) : Duration := .ofNanos (d.seconds * tenTo 9 - calendar)

/-- The delay that header fields ask for. -/
def parseRetryAfter (headers : Http.Headers) (calendar : Nat) : Option Duration := do
  let value ← Http.Headers.get? retryAfterName headers
  let text ← value.text?
  let cs := Codec.trimmed text.toList
  match wordOf cs with
  | some n => return .ofSeconds n
  | none =>
    let date ← Http.Date.ofText? (String.ofList cs)
    return untilDate calendar date

/-- Whether a delay is kept for the status. -/
def keepsDelay (status : Nat) : Bool := status == 429 || status == 503

/-- The standard failure of a status. -/
def standardFailure (methodKey : String) (status : Nat) (headers : Http.Headers) (body : Bytes)
    (calendar : Nat) : Failure :=
  .status {
    methodKey := methodKey
    status := status
    reason := Http.reason status
    body := if body.isEmpty then none else some body
    retryAfter := if keepsDelay status then parseRetryAfter headers calendar else none }

end Courier.Status
