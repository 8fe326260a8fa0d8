import Courier.Status.Rule

/-! Responses that stand for a failure.

    The failure is decoded when somebody first asks for it, and never again: the body, read as elements
    or as bytes, and every handle on the failure give the same one. -/

namespace Courier.Status

/-- A failure that is decoded on demand, if decoding ever comes to an end. -/
inductive Deferred (W : Type) where
  | pending (run : W → W × Option Failure)
  | settled (failure : Failure)
  | stuck

/-- Asks for the failure; it stays settled, and decoding that has begun is not begun again. -/
def Deferred.force {W : Type} : Deferred W → W → W × Deferred W × Option Failure
  | .pending run, w => match run w with
    | (w', some e) => (w', .settled e, some e)
    | (w', none) => (w', .stuck, none)
  | .settled e, w => (w, .settled e, some e)
  | .stuck, w => (w, .stuck, none)

/-- A response with a failure in place of its body. -/
structure Faulted (W : Type) where
  status : Nat
  headers : Http.Headers
  failure : Deferred W

namespace Faulted

variable {W : Type}

/-- Puts the failure that a rule decodes in place of the body. -/
def make (rule : Rule W) (key : String) (response : Response W) : Faulted W :=
  ⟨response.status, response.headers, .pending (rule.decode key response)⟩

/-- Asks for the failure through any handle. -/
def ask (f : Faulted W) (w : W) : W × Faulted W × Option Failure := match f.failure.force w with
  | (w', settled, e) => (w', { f with failure := settled }, e)

/-- The failure as the result of reading the body. -/
def fail {α : Type} (f : Faulted W) (w : W) : W × Eventual Failure α := match f.failure.force w with
  | (w', _, some e) => (w', .error e)
  | (w', _, none) => (w', .never)

/-- The response as any other. -/
def toResponse (f : Faulted W) : Response W where
  status := f.status
  headers := f.headers
  body := fun w => (w, Stream.once f.fail)
  data := f.fail

end Faulted

variable {W : Type} [Ambient W]

/-- Leaves a response alone, or faults it if the rule claims its status. -/
def handle (rule : Rule W) (key : String) (response : Response W) (w : W) : W × Response W :=
  if rule.claims response.status then
    let message := key ++ " -> " ++ toString response.status ++ " handled by '" ++ rule.name ++ "'"
    (Ambient.record .debug "StatusHandler" message w, (Faulted.make rule key response).toResponse)
  else (w, response)

/-- The exchange with a rule for its responses. -/
def exchange (rule : Rule W) (key : String) (inner : Exchange W) : Exchange W where
  shown := "StatusHandlerReactiveHttpClient \x7b handler: " ++ Text.quoted rule.name ++ ", method_key: "
    ++ Text.quoted key ++ ", inner: " ++ inner.shown ++ " \x7d"
  execute := fun request w => match inner.execute request w with
    | (w', .error e) => (w', .error e)
    | (w', .never) => (w', .never)
    | (w', .ok response) =>
      let (w'', handled) := handle rule key response w'
      (w'', .ok handled)

end Courier.Status
