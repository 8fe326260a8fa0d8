import Courier.Ambient
import Courier.Power
import Courier.Response

/-! A stage for rehearsals.

    On a stage a client can be watched without a network: its transport follows a script, time passes
    only where somebody waits, and everything that happens is written down in order. -/

namespace Courier.Rehearsal

/-- What can happen on a stage. -/
inductive Event where
  | log (level : Logging.Level) (part message : String)
  | transport (call millis : Nat) (method : Http.Method) (uri : String) (headers : Http.Headers)
  | sent (chunk : Bytes)
  | sendFailed
  | body (call : Nat)
  | pull (call index : Nat)
  | pullChunk (index : Nat)
  | bodyData (call : Nat)
  | tap (number : Nat) (chunk : Bytes)
  | chunk (bytes : Bytes)
  | fail (failure : Failure)
  | ended
  | got
  | response (status : Nat)
  | decode (tag methodKey : String) (status : Nat) (headers : Http.Headers) (body : Bytes)
  | created
  | subscribed
  | chain (size : Nat) (names : String)
  | policyStarted
  | policySaw (text : String)
  | errorPulled (index : Nat)
  | permit (millis : Nat)
  | decline (millis : Nat) (failure : Failure)
  | requestStarted (methodKey : String) (method : Http.Method) (uri : String) (headers : Http.Headers)
      (hasBody : Bool)
  | requestBody (chunk : Bytes)
  | responseReceived (status : Nat) (headers : Http.Headers)
  | bodyElement (element : Json)
  | errorReceived (text : String)
  | retryAttempt (methodKey : String) (retry : Nat) (text : String)

/-- How a call of the transport goes. -/
inductive Outcome where
  | fail (failure : Failure)
  | buffered (response : BufferedResponse)
  | items (status : Nat) (headers : Http.Headers) (data : Except Failure Bytes)
      (items : List (Except Failure Json))
  | lines (status : Nat) (headers : Http.Headers) (data : Except Failure Bytes)
      (chunks : List (Except Failure Bytes))

/-- A call of the transport: how it goes, how long it takes, and whether the request body is read. -/
structure Scene where
  outcome : Outcome
  delay : Duration
  readsBody : Bool

/-- The state of a stage: events so far, the last one first, the time, the scenes to come, the calls of
    the transport, and how often each counting interceptor ran. -/
structure Stage where
  events : List Event
  elapsed : Duration
  scenes : List Scene
  calls : Nat
  tallies : List (Nat × Nat)
  ids : Nat

namespace Stage

/-- A stage with a script. -/
def ofScript (scenes : List Scene) : Stage := ⟨[], .zero, scenes, 0, [], 0⟩

/-- Writes an event down. -/
def note (e : Event) (s : Stage) : Stage := { s with events := e :: s.events }

/-- The time since the start in milliseconds. -/
def millis (s : Stage) : Nat := s.elapsed.nanos / tenTo 6

/-- Hands out the events so far. -/
def takeEvents (s : Stage) : List Event × Stage := (s.events.reverse, { s with events := [] })

/-- Counts one more run of an interceptor. -/
def count (id : Nat) (s : Stage) : Nat × Stage :=
  let n := (s.tallies.lookup id).getD 0 + 1
  (n, { s with tallies := (id, n) :: s.tallies.filter fun t => t.1 != id })

/-- Nobody waits longer than thirty years. -/
def longestWait : Duration := .ofSeconds (30 * 365 * 86400)

/-- Lets time pass. -/
def wait (d : Duration) (s : Stage) : Stage :=
  { s with elapsed := .ofNanos (s.elapsed.nanos + (d.least longestWait).nanos) }

/-- A moment in 2025, not on a whole second. -/
def moment : Nat := 1750000000500000000

instance : Ambient Stage where
  record := fun level part message s => s.note (.log level part message)
  pause := wait
  elapsed := Stage.elapsed
  calendar := fun s => moment + s.elapsed.nanos
  freshId := fun s =>
    let digits := Nat.toDigits 16 (s.ids + 1)
    ({ s with ids := s.ids + 1 }, String.ofList (digits ++ List.replicate (32 - digits.length) '0'))

end Stage

/-- Reads a stream to its end, noting each item and the end. -/
def drain {α : Type} (onItem : α → Stage → Stage) (onEnd : Stage → Stage) :
    Step Stage α → Stage × List α
  | .done s => (onEnd s, [])
  | .item s a more =>
    let (s', rest) := drain onItem onEnd (more (onItem a s))
    (s', a :: rest)
  | .never s => (s, [])

/-- Reads at most so many items, noting each, and the end if it is seen. -/
def drainSome {α : Type} (onItem : α → Stage → Stage) (onEnd : Stage → Stage) :
    Nat → Stream Stage α → Stage → Stage × List α
  | 0, _, s => (s, [])
  | n + 1, stream, s => match stream s with
    | .done s => (onEnd s, [])
    | .item s a more =>
      let (s', rest) := drainSome onItem onEnd n more (onItem a s)
      (s', a :: rest)
    | .never s => (s, [])

/-- Reads a stream, up to a number of items if one is given. -/
def read {α : Type} (onItem : α → Stage → Stage) (onEnd : Stage → Stage) (limit : Option Nat)
    (stream : Stream Stage α) (s : Stage) : Stage × List α :=
  match limit with
  | some n => drainSome onItem onEnd n stream s
  | none => drain onItem onEnd (stream s)

end Courier.Rehearsal
