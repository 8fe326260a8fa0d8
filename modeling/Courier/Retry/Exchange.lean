import Courier.Listener.Basic
import Courier.Response
import Courier.Retry.Policy
import Courier.Text.Quoted

/-! Calls that are tried again.

    An attempt counts as a failure if the exchange fails or if the first element of the body is one;
    that element is read ahead. Each failure is put to the policy, and each permission is used for one
    more attempt with the request of the caller. A body of many results that breaks later goes on with
    the elements of the next attempt. -/

namespace Courier.Retry

/-- A response whose first element has been read. -/
structure Primed (W : Type) where
  status : Nat
  headers : Http.Headers
  first : Option Json
  rest : Stream W (Except Failure Json)

/-- What attempts lead to: a failure of the call, or a response together with what happens if its body
    fails later; or the call waits for an answer that never comes. -/
inductive Outcome (W : Type) where
  | failed (after : W) (failure : Failure)
  | never (after : W)
  | primed (after : W) (response : Primed W) (resume : Failure → W → Outcome W)

variable {W : Type}

/-- One attempt, up to its first element. -/
def prime (inner : Exchange W) (request : Request W) (w : W) : W × Eventual Failure (Primed W) :=
  match inner.execute request w with
  | (w, .error e) => (w, .error e)
  | (w, .never) => (w, .never)
  | (w, .ok response) => match response.body w with
    | (w, items) => match items w with
      | .item w (.ok first) rest => (w, .ok ⟨response.status, response.headers, some first, rest⟩)
      | .item w (.error e) _ => (w, .error e)
      | .done w => (w, .ok ⟨response.status, response.headers, none, .empty⟩)
      | .never w => (w, .never)

/-- What a call needs for its attempts. -/
structure Attempts (W : Type) where
  methodKey : String
  listener : Listener W
  inner : Exchange W
  request : Request W

variable [Ambient W]

/-- A failure is written to the log before the policy sees it. -/
def report (a : Attempts W) (retries : Nat) (e : Failure) (w : W) : W :=
  Ambient.record .debug "Retry"
    (a.methodKey ++ " attempt " ++ toString (retries + 1) ++ " failed: " ++ e.text) w

/-- Puts failures to the policy and makes the attempts it allows. `queue` holds the failures that the
    policy has not taken yet, `last` the one that an answer is about, `retries` the attempts allowed so
    far. A policy that closes ends the call with `last`; one that waits for a failure when there is none
    never answers, for no failure will come while it waits. -/
def converse (a : Attempts W) : Session W → List Failure → Failure → Nat → W → Outcome W
  | .closed, _, last, _, w => .failed w last
  | .await _, [], _, _, w => .never w
  | .await next, e :: queue, last, retries, w => converse a (next e) queue last retries w
  | .perform effect rest, queue, last, retries, w =>
    converse a (rest (effect w)) queue last retries (effect w)
  | .answer (.error declined) _, _, _, _, w => .failed w declined
  | .answer (.ok ()) rest, queue, last, retries, w =>
    let told := a.listener.notify (.retryAttempt a.methodKey (retries + 1) last) w
    let ask (e : Failure) (w : W) : Outcome W :=
      converse a rest (queue ++ [e]) e (retries + 1) (report a (retries + 1) e w)
    match prime a.inner a.request told with
    | (w, .ok response) => .primed w response ask
    | (w, .error e) => ask e w
    | (w, .never) => .never w

/-- All attempts of a call. -/
def run (a : Attempts W) (policy : Policy W) (w : W) : Outcome W :=
  let (w, session) := policy.opening w
  let ask (e : Failure) (w : W) : Outcome W := converse a session [e] e 0 (report a 0 e w)
  match prime a.inner a.request w with
  | (w, .ok response) => .primed w response ask
  | (w, .error e) => ask e w
  | (w, .never) => .never w

omit [Ambient W] in
/-- The elements up to a failure, then what follows it. -/
def splice (resume : Failure → W → Step W (Except Failure Json)) :
    Step W (Except Failure Json) → Step W (Except Failure Json)
  | .done w => .done w
  | .item w (.ok j) more => .item w (.ok j) fun w' => splice resume (more w')
  | .item w (.error e) _ => resume e w
  | .never w => .never w

omit [Ambient W] in
/-- The elements of the attempts, each from its start to its failure. -/
def Outcome.elements : Outcome W → Step W (Except Failure Json)
  | .failed w e => .item w (.error e) .done
  | .never w => .never w
  | .primed w response resume =>
    let resumed (e : Failure) (w : W) : Step W (Except Failure Json) := elements (resume e w)
    match response.first with
    | some j => .item w (.ok j) fun w' => splice resumed (response.rest w')
    | none => splice resumed (response.rest w)

omit [Ambient W] in
/-- The response of the first attempt that got so far, its body still able to go on with others. -/
def toResponse (arity : Arity) (p : Primed W) (resume : Failure → W → Outcome W) : Response W :=
  let items : Stream W (Except Failure Json) := match arity with
    | .mono => Stream.ofList (p.first.toList.map .ok)
    | .flux => fun w => (Outcome.primed w p resume).elements
  { status := p.status
    headers := p.headers
    body := fun w => (w, items)
    data := fun w => match items.collect w with
      | (w, .ok js) => (w, .ok (Codec.encodeElements arity js))
      | (w, .error e) => (w, .error e)
      | (w, .never) => (w, .never) }

/-- The exchange with a retry policy. -/
def exchange (policy : Policy W) (listener : Listener W) (endpoint : Endpoint) (inner : Exchange W) :
    Exchange W where
  shown := "RetryReactiveHttpClient \x7b policy: " ++ Text.quoted policy.name ++ ", method_key: "
    ++ Text.quoted endpoint.key ++ ", kind: " ++ endpoint.arity.text ++ ", inner: " ++ inner.shown ++ " \x7d"
  execute := fun request w => match run ⟨endpoint.key, listener, inner, request⟩ policy w with
    | .failed w e => (w, .error e)
    | .never w => (w, .never)
    | .primed w response resume => (w, .ok (toResponse endpoint.arity response resume))

end Courier.Retry
