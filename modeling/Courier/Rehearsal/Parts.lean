import Courier.Client
import Courier.Rehearsal.Script

/-! Parts of a client that write down what they do, or do one plain thing. -/

namespace Courier.Rehearsal

/-- What an interceptor without a kind of its own does. -/
inductive Edit where
  | append (name value : String)
  | setPath (path : String)
  | tagPath
  | count (id : Nat)
  | dropBody
  | clearHeaders

/-- The request with one more header value; what is no header is left out. -/
def appendHeader (name value : String) (r : Request Stage) : Request Stage :=
  match r.withHeader name value with
  | .ok r' => r'
  | .error _ => r

/-- Does an edit. -/
def Edit.apply : Edit → Request Stage → Stage → Stage × Request Stage
  | .append name value, r, s => (s, appendHeader name value r)
  | .setPath path, r, s => (s, { r with uri := r.uri.withPath path })
  | .tagPath, r, s => (s, appendHeader "x-path" r.uri.path r)
  | .count id, r, s =>
    let (n, s) := s.count id
    (s, appendHeader "x-attempt" (toString n) r)
  | .dropBody, r, s => (s, { r with body := none })
  | .clearHeaders, r, s => (s, { r with headers := [] })

/-- An edit as an interceptor. -/
def Edit.interceptor (e : Edit) : Interceptor Stage := ⟨"fn", e.apply⟩

/-- A chain; its making is noted. -/
def makeChain (parts : List (Interceptor Stage)) (s : Stage) : Stage × Interceptor Stage :=
  (s.note (.chain parts.length (Status.Rule.quotedNames (parts.map (·.name)))), .chain parts)

/-- Names the tenant that a configuration gives. -/
def tenant (config : Json) : Except Failure (Interceptor Stage) :=
  let id := ((config.get? "id").bind Json.string?).getD "default"
  .ok ⟨"fn", fun r s => (s, appendHeader "x-tenant" id r)⟩

/-- Refuses every configuration. -/
def rejecting (config : Json) : Except Failure (Interceptor Stage) :=
  .error (.other ("rejected " ++ config.text))

/-- The kinds of interceptors that a stage adds. -/
def registry : Interceptor.Registry Stage :=
  (Interceptor.Registry.register "rejecting" rejecting (.register "rejecting" tenant
    (.register "tenant" tenant [])))

/-- What the decoder of a rule makes of a response. -/
inductive Verdict where
  | other
  | transport
  | status
deriving DecidableEq

/-- A decoder that notes what it is given. -/
def decoder (tag : String) (verdict : Verdict) (key : String) (status : Nat) (headers : Http.Headers)
    (body : Bytes) (s : Stage) : Stage × Failure :=
  let text := tag ++ ":" ++ key ++ ":" ++ toString status
  let s := s.note (.decode tag key status headers body)
  (s, match verdict with
    | .other => .other text
    | .transport => .transport .other text
    | .status => Status.standardFailure key status headers body (Ambient.calendar s))

/-- A mapper for one status or all, under its own name. -/
def changing (only : Option Nat) (status : Option Nat) (emptyBody : Bool) : Mapper Stage where
  name := "fn"
  map := fun r =>
    if only.isNone || only == some r.status then Mapper.change status emptyBody r else r

/-- What a listener hears, as an event. -/
def Event.ofNotice : Notice Stage → Event
  | .requestStarted call r => .requestStarted call.methodKey call.method call.uri r.headers r.body.isSome
  | .requestBody _ bytes => .requestBody bytes
  | .responseReceived _ status headers _ => .responseReceived status headers
  | .bodyElement _ element _ => .bodyElement element
  | .errorReceived _ e _ => .errorReceived e.text
  | .retryAttempt key retry e => .retryAttempt key retry e.text

/-- Notes what it hears, and crashes over the notices of some names. -/
def recorder (crashes : List String) : Listener Stage where
  hear := fun n s => (s.note (.ofNotice n), crashes.contains n.name)

/-- The answers of a list, whatever failed. -/
def permitsSession : List (Except Failure Unit) → Retry.Session Stage
  | [] => .closed
  | a :: as => .answer a (permitsSession as)

/-- The answers of a list, one for each failure; the failure after the last answer is taken too. -/
def answersSession : List (Except Failure Unit) → Retry.Session Stage
  | [] => .await fun _ => .closed
  | a :: as => .await fun e =>
    .perform (Stage.note (.policySaw e.text)) fun _ => .answer a (answersSession as)

/-- Gives up over each of so many failures. -/
def gaveUpSession : Nat → Retry.Session Stage
  | 0 => .closed
  | n + 1 => .await fun e => .answer (.error (.other ("gave up: " ++ e.text))) (gaveUpSession n)

/-- A policy with a session of its own. -/
def policyOf (noted : Bool) (session : Retry.Session Stage) : Retry.Policy Stage :=
  ⟨"fn", fun s => (if noted then s.note .policyStarted else s, session)⟩

/-- Puts failures to a session until it closes or waits in vain; all answers are noted. -/
def interview : Retry.Session Stage → Nat → List Failure → Stage → Stage
  | .closed, _, _, s => s
  | .await _, _, [], s => s
  | .await next, i, e :: es, s => interview (next e) (i + 1) es (s.note (.errorPulled i))
  | .perform effect rest, i, es, s => interview (rest (effect s)) i es (effect s)
  | .answer (.ok ()) rest, i, es, s => interview rest i es (s.note (.permit s.millis))
  | .answer (.error e) rest, i, es, s => interview rest i es (s.note (.decline s.millis e))

end Courier.Rehearsal
