import Courier.Ambient
import Courier.Failure
import Courier.Retry.Backoff

/-! What a retry policy says.

    For each call a policy opens a session, a conversation about failures: it may wait for the next
    failure, act on the surroundings and go on from what it finds there, or give an answer, and may
    close. An answer allows another attempt or ends the call with a failure of the policy's choice. -/

namespace Courier.Retry

/-- The policy's side of a conversation. It has an end, however late: a call that comes to its end has
    heard only so many answers. -/
inductive Session (W : Type) where
  | closed
  | await (next : Failure → Session W)
  | perform (effect : W → W) (rest : W → Session W)
  | answer (verdict : Except Failure Unit) (rest : Session W)

/-- Decides about retries; a session is opened once for each call, before its first attempt. -/
structure Policy (W : Type) where
  name : String
  opening : W → W × Session W

/-- Allows a number of retries for the failures it accepts. -/
structure BasicPolicy where
  maxRetries : Nat
  backoff : Backoff
  accepts : Failure → Bool

namespace BasicPolicy

/-- Retries failures that may pass, without waiting. -/
def transient (maxRetries : Nat) : BasicPolicy := ⟨maxRetries, .none, Failure.isTransient⟩

/-- The delay before a retry: the one the server asked for, else that of the backoff. -/
def delay (p : BasicPolicy) (e : Failure) (retry : Nat) : Duration :=
  e.retryAfter.getD (p.backoff.delay retry)

variable {W : Type} [Ambient W]

/-- Waits, if there is something to wait for. -/
def wait (d : Duration) (w : W) : W := if d.isZero then w else Ambient.pause d w

/-- The conversation with so many retries left, `retry` being the number of the next one. -/
def converse (p : BasicPolicy) : Nat → Nat → Session W
  | 0, _ => .await fun e => .answer (.error e) .closed
  | left + 1, retry => .await fun e =>
    if p.accepts e then
      .perform (wait (p.delay e retry)) fun _ => .answer (.ok ()) (converse p left (retry + 1))
    else .answer (.error e) .closed

/-- The policy as any other. -/
def toPolicy (p : BasicPolicy) : Policy W := ⟨"basic", fun w => (w, converse p p.maxRetries 1)⟩

/-- The policy as diagnostics show it. -/
def quoted (p : BasicPolicy) : String :=
  "BasicRetryPolicy \x7b max_retries: " ++ toString p.maxRetries ++ ", backoff: " ++ p.backoff.quoted
    ++ ", .. \x7d"

end BasicPolicy
end Courier.Retry
