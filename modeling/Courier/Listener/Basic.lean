import Courier.Ambient
import Courier.Request

/-! Who watches calls.

    A listener hears of the steps of a call and cannot change it: if it crashes, that is written to the
    log and the call goes on. -/

namespace Courier

/-- What all notices of a call have in common. -/
structure CallContext where
  id : String
  methodKey : String
  method : Http.Method
  uri : String
  started : Duration

/-- What a listener hears of. -/
inductive Notice (W : Type) where
  | requestStarted (call : CallContext) (request : Request W)
  | requestBody (call : CallContext) (chunk : Bytes)
  | responseReceived (call : CallContext) (status : Nat) (headers : Http.Headers) (elapsed : Duration)
  | bodyElement (call : CallContext) (element : Json) (elapsed : Duration)
  | errorReceived (call : CallContext) (failure : Failure) (elapsed : Duration)
  | retryAttempt (methodKey : String) (retry : Nat) (failure : Failure)

/-- The name of a notice. -/
def Notice.name {W : Type} : Notice W → String
  | .requestStarted _ _ => "request_started"
  | .requestBody _ _ => "request_body"
  | .responseReceived _ _ _ _ => "response_received"
  | .bodyElement _ _ _ => "body_element"
  | .errorReceived _ _ _ => "error_received"
  | .retryAttempt _ _ _ => "retry_attempt"

/-- Hears notices; the flag says whether it crashed over one. -/
structure Listener (W : Type) where
  hear : Notice W → W → W × Bool

namespace Listener

variable {W : Type}

/-- Hears everything and does nothing. -/
def silent : Listener W := ⟨fun _ w => (w, false)⟩

variable [Ambient W]

/-- Tells a listener; a crash is written to the log. -/
def notify (l : Listener W) (n : Notice W) (w : W) : W := match l.hear n w with
  | (w', false) => w'
  | (w', true) =>
    Ambient.record .warn "ReactiveLogger" ("listener hook '" ++ n.name ++ "' panicked; ignored") w'

end Listener

namespace CallContext

variable {W : Type} [Ambient W]

/-- A new call. -/
def start (methodKey : String) (r : Request W) (w : W) : W × CallContext :=
  let (w', id) := Ambient.freshId w
  (w', ⟨id, methodKey, r.method, r.uri.text, Ambient.elapsed w'⟩)

/-- The time since the call started. -/
def elapsed (c : CallContext) (w : W) : Duration :=
  .ofNanos ((Ambient.elapsed w).nanos - c.started.nanos)

end CallContext
end Courier
