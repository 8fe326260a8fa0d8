import Courier.Rehearsal.Stage

/-! A transport that follows a script.

    Each call plays the next scene: the request body is read to its end or to its first failure, time
    passes, and the outcome of the scene is the answer. After the last scene every call fails. -/

namespace Courier.Rehearsal

/-- Items that are noted when they are pulled. -/
def watched {α : Type} (pulled : Nat → Event) : Nat → List α → Stream Stage α
  | _, [] => .empty
  | i, a :: as => fun s => .item (s.note (pulled i)) a (watched pulled (i + 1) as)

/-- The response of a body that comes in while it is read. -/
def lazyResponse (call status : Nat) (headers : Http.Headers) (data : Except Failure Bytes)
    (items : Stream Stage (Except Failure Json)) : Response Stage where
  status := status
  headers := headers
  body := fun s => (s.note (.body call), items)
  data := fun s => (s.note (.bodyData call), .ofExcept data)

/-- The answer to a call. -/
def Outcome.answer (call : Nat) : Outcome → Eventual Failure (Response Stage)
  | .fail e => .error e
  | .buffered r => .ok r.toResponse
  | .items status headers data elements =>
    .ok (lazyResponse call status headers data (watched (.pull call) 0 elements))
  | .lines status headers data chunks =>
    .ok (lazyResponse call status headers data (Codec.decodeLines (watched (.pull call) 0 chunks)))

/-- Sends chunks until one is a failure. -/
def send : Step Stage (Except Failure Bytes) → Stage × Eventual Failure Unit
  | .done s => (s, .ok ())
  | .item s (.ok c) more => send (more (s.note (.sent c)))
  | .item s (.error e) _ => (s.note .sendFailed, .error e)
  | .never s => (s, .never)

/-- Sends the body of a request, if it has one. -/
def sendBody (r : Request Stage) (s : Stage) : Stage × Eventual Failure Unit := match r.body with
  | some b => send (b.subscribe s)
  | none => (s, .ok ())

/-- The failure of a call after the last scene. -/
def exhausted : Failure := .transport .connect "script exhausted"

/-- Plays the next scene for a request. -/
def perform (r : Request Stage) (s : Stage) : Stage × Eventual Failure (Response Stage) :=
  let call := s.calls + 1
  let s := { s with calls := call }.note (.transport call s.millis r.method r.uri.text r.headers)
  match s.scenes with
  | [] => (s, .error exhausted)
  | scene :: scenes =>
    let s := { s with scenes := scenes }
    match if scene.readsBody then sendBody r s else (s, .ok ()) with
    | (s, .error e) => (s, .error e)
    | (s, .never) => (s, .never)
    | (s, .ok ()) =>
      let s := if scene.delay.isZero then s else Ambient.pause scene.delay s
      (s, scene.outcome.answer call)

/-- The exchange that follows the script. -/
def scripted : Exchange Stage := ⟨"Scripted", perform⟩

end Courier.Rehearsal
