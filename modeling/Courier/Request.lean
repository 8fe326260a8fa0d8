import Courier.Failure
import Courier.Http.Header
import Courier.Http.Method
import Courier.Json.Printer
import Courier.Stream
import Courier.Url.Parse

/-! What is sent.

    A request is a value: a change makes another request. Its body is cold: every subscription produces
    the same chunks anew, so that a repeated attempt sends the same content. -/

namespace Courier

/-- A body: its chunks, and hooks that see the first chunk of every subscription, the innermost first. -/
structure Body (W : Type) where
  items : List (Except Failure Bytes)
  taps : List (Bytes → W → W)

namespace Body

variable {W : Type}

/-- The chunks of a list. -/
def ofItems (items : List (Except Failure Bytes)) : Body W := ⟨items, []⟩

/-- One chunk. -/
def ofBytes (bs : Bytes) : Body W := ofItems [.ok bs]

/-- A JSON text. -/
def json (j : Json) : Body W := ofBytes j.toBytes

/-- A line of JSON text for each value, one chunk each. -/
def lines (js : List Json) : Body W := ofItems (js.map fun j => .ok (j.toBytes ++ [10]))

/-- The body with another hook around it. -/
def tapFirst (hook : Bytes → W → W) (b : Body W) : Body W := { b with taps := b.taps ++ [hook] }

/-- The chunks, with hooks that wait for the first one. -/
def emit (taps : List (Bytes → W → W)) : List (Except Failure Bytes) → Stream W (Except Failure Bytes)
  | [] => .empty
  | .error e :: rest => fun w => .item w (.error e) (emit taps rest)
  | .ok c :: rest => fun w => .item (taps.foldl (fun w tap => tap c w) w) (.ok c) (Stream.ofList rest)

/-- A new subscription. -/
def subscribe (b : Body W) : Stream W (Except Failure Bytes) := emit b.taps b.items

/-- A body as diagnostics show it: its content is not known before a subscription. -/
def quoted : String := "RequestBody \x7b .. \x7d"

end Body

/-- A request. -/
structure Request (W : Type) where
  method : Http.Method
  uri : Url
  headers : Http.Headers
  body : Option (Body W)

namespace Request

variable {W : Type}

/-- The failure of a text that is no URL. -/
def invalidUri (text : String) (f : Url.Fault) : Failure :=
  .invalidRequest ("invalid uri '" ++ text ++ "': " ++ f.text)

/-- A request for a URL, with neither headers nor body. -/
def make (method : Http.Method) (uri : Url) : Request W := ⟨method, uri, [], none⟩

/-- A request for the URL of a text. -/
def parse (method : Http.Method) (text : String) : Except Failure (Request W) :=
  match Url.ofText text with
  | .ok u => .ok (make method u)
  | .error f => .error (invalidUri text f)

/-- The method of a name. -/
def parseMethod (name : String) : Except Failure Http.Method := match Http.Method.ofText name with
  | .ok m => .ok m
  | .error shown => .error (.invalidRequest ("unsupported HTTP method '" ++ shown ++ "'"))

/-- The failure of a text that is no header name. -/
def invalidName : Failure := .invalidRequest "invalid header name: invalid HTTP header name"

/-- The failure of a text that is no header value. -/
def invalidValue : Failure := .invalidRequest "invalid header value: failed to parse header value"

/-- A header name and a header value out of two texts. -/
def parseHeader (name value : String) : Except Failure (Http.HeaderName × Http.HeaderValue) :=
  match Http.HeaderName.ofText? name, Http.HeaderValue.ofText? value with
  | none, _ => .error invalidName
  | some _, none => .error invalidValue
  | some n, some v => .ok (n, v)

/-- The request with one more header value. -/
def withHeader (r : Request W) (name value : String) : Except Failure (Request W) :=
  (parseHeader name value).map fun h => { r with headers := Http.Headers.append h.1 h.2 r.headers }

end Request
end Courier
