import Courier.Codec
import Courier.Request

/-! What comes back, and who fetches it.

    A response has its status and headers at once; its body is asked for, either as values or as bytes.
    An exchange turns a request into a response or a failure. Transports are exchanges, and so is
    everything that wraps one. What goes on beside an exchange, such as a connection that still reads the
    body of an earlier request, happens to the surroundings while somebody waits. -/

namespace Courier

/-- A response. Asking for the body may be seen by others before its first element is pulled; its bytes may
    never come. -/
structure Response (W : Type) where
  status : Nat
  headers : Http.Headers
  body : W → W × Stream W (Except Failure Json)
  data : W → W × Eventual Failure Bytes

/-- Turns requests into responses, if an answer ever comes; `shown` is its text for diagnostics. -/
structure Exchange (W : Type) where
  shown : String
  execute : Request W → W → W × Eventual Failure (Response W)

/-- A method of a client: its name in logs and failures, and how many results it has. -/
structure Endpoint where
  key : String
  arity : Arity
deriving DecidableEq, Repr

/-- A response whose body is in memory. -/
structure BufferedResponse where
  status : Nat
  arity : Arity
  headers : Http.Headers
  bytes : Bytes

namespace BufferedResponse

/-- An empty response. -/
def make (status : Nat) (arity : Arity) : BufferedResponse := ⟨status, arity, [], []⟩

/-- The response with one more header value; what is no header is left out. -/
def withHeader (r : BufferedResponse) (name value : String) : BufferedResponse :=
  match Request.parseHeader name value with
  | .ok (n, v) => { r with headers := Http.Headers.append n v r.headers }
  | .error _ => r

/-- The response with a JSON text as its body. -/
def withJson (r : BufferedResponse) (j : Json) : BufferedResponse :=
  { r.withHeader "content-type" "application/json" with bytes := j.toBytes }

/-- The elements of the body, or why there are none. -/
def elements (r : BufferedResponse) : List (Except Failure Json) :=
  match Codec.decodeBody r.arity (Codec.contentType r.headers) r.bytes with
  | .ok js => js.map .ok
  | .error e => [.error e]

/-- The response as any other. -/
def toResponse {W : Type} (r : BufferedResponse) : Response W where
  status := r.status
  headers := r.headers
  body := fun w => (w, Stream.ofList r.elements)
  data := fun w => (w, .ok r.bytes)

end BufferedResponse

/-- A response as diagnostics show it. -/
def Response.quoted {W : Type} (r : Response W) : String :=
  "ReactiveHttpResponse \x7b status: " ++ toString r.status ++ ", headers: " ++ Http.Headers.quoted r.headers
    ++ ", .. \x7d"

end Courier
