import Courier.Ambient
import Courier.Response

/-! Requests over the wire.

    The wire carries a request and hands back an answer as soon as its headers are there, or says why
    there is none; nobody may ever hear of a request again. It may keep the request and go on reading its
    body behind the answer, while others wait. Lines of many results are decoded while chunks come in; any
    other body is decoded when all of it has been read. -/

namespace Courier

/-- What a wire is asked to keep to. -/
structure WireSettings where
  connectTimeout : Option Duration
  followRedirects : Bool
  /-- How long the headers of an answer may take. -/
  readTimeout : Option Duration

/-- What became of a request. -/
inductive Reply (W : Type) where
  | refused (kind : TransportKind) (message : String)
  | late (limit : Duration)
  | answered (status : Nat) (headers : Http.Headers) (chunks : Stream W (Except Failure Bytes))
  | silent

/-- Carries requests. -/
structure Wire (W : Type) where
  /-- Gets ready to keep to some settings, or says why that cannot be done. -/
  prepare : WireSettings → Except String Unit := fun _ => .ok ()
  send : WireSettings → Request W → W → W × Reply W

namespace Wire

variable {W : Type}

/-- No server can be reached; only the schemes of the web are even tried. -/
def deaf : Wire W where
  send := fun _ request w =>
    let url := request.uri.text
    if request.uri.scheme == "http" || request.uri.scheme == "https" then
      (w, .refused .connect ("error sending request for url (" ++ url ++ ")"))
    else (w, .refused .other ("builder error for url (" ++ url ++ ")"))

end Wire

namespace Transport

variable {W : Type}

/-- All bytes of the chunks. -/
def readAll (chunks : Stream W (Except Failure Bytes)) (w : W) : W × Eventual Failure Bytes :=
  match chunks.collect w with
  | (w, .ok cs) => (w, .ok cs.flatten)
  | (w, .error e) => (w, .error e)
  | (w, .never) => (w, .never)

/-- The elements of a body that is read as a whole, when the first of them is asked for. -/
def wholeBody (arity : Arity) (type : Option String) (chunks : Stream W (Except Failure Bytes)) :
    Stream W (Except Failure Json) := fun w => match readAll chunks w with
  | (w, .error e) => .item w (.error e) .done
  | (w, .ok bytes) => match Codec.decodeBody arity type bytes with
    | .error e => .item w (.error e) .done
    | .ok js => Stream.ofList (js.map .ok) w
  | (w, .never) => .never w

/-- An answer as a response. -/
def toResponse (arity : Arity) (status : Nat) (headers : Http.Headers)
    (chunks : Stream W (Except Failure Bytes)) : Response W where
  status := status
  headers := headers
  body := fun w =>
    let type := Codec.contentType headers
    if arity == .flux && Codec.isStreaming type then (w, Codec.decodeLines chunks)
    else (w, wholeBody arity type chunks)
  data := readAll chunks

/-- The exchange over a wire. -/
def exchange [Ambient W] (wire : Wire W) (settings : WireSettings) (arity : Arity) : Exchange W where
  shown := "HttpTransport"
  execute := fun request w =>
    let w := Ambient.record .trace "Transport" (request.method.text ++ " " ++ request.uri.text) w
    match wire.send settings request w with
    | (w, .refused kind message) => (w, .error (.transport kind message))
    | (w, .late limit) => (w, .error (.timeout limit))
    | (w, .answered status headers chunks) => (w, .ok (toResponse arity status headers chunks))
    | (w, .silent) => (w, .never)

end Transport
end Courier
