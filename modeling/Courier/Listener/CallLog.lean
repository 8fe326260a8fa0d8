import Courier.Json.Decoder
import Courier.Listener.Basic
import Courier.Power

/-! Calls in the log.

    Each line is tagged with the method and the first eight digits of the call's name. Header fields and
    bodies are written only if so configured; sensitive values never, long bodies in part. -/

namespace Courier.Listener

/-- What to write to the log. -/
structure CallLog where
  requestHeaders : Bool
  requestBody : Bool
  responseHeaders : Bool
  responseBody : Bool
  level : String
  maxBodySize : Nat
deriving DecidableEq, Repr

namespace CallLog

/-- Neither header fields nor bodies. -/
def brief : CallLog := ⟨false, false, false, false, "debug", 1024⟩

/-- Header fields and bodies in both directions. -/
def verbose : CallLog := ⟨true, true, true, true, "debug", 1024⟩

/-- Sizes are counted in 64 bits. -/
def size : Json.Decoder Nat := Json.Decoder.natural 64 "usize"

/-- Reads a configuration. -/
def decoder : Json.Decoder CallLog :=
  Json.Decoder.record "LoggerConfig" [
    .of "log_request_headers" false Json.Decoder.bool fun v c => { c with requestHeaders := v },
    .of "log_request_body" false Json.Decoder.bool fun v c => { c with requestBody := v },
    .of "log_response_headers" false Json.Decoder.bool fun v c => { c with responseHeaders := v },
    .of "log_response_body" false Json.Decoder.bool fun v c => { c with responseBody := v },
    .of "log_level" false Json.Decoder.string fun v c => { c with level := v },
    .of "max_body_size" false size fun v c => { c with maxBodySize := v }] brief

/-- A configuration as JSON. -/
def toJson (c : CallLog) : Json :=
  .object (Members.ofList [
    ("log_request_headers", .bool c.requestHeaders), ("log_request_body", .bool c.requestBody),
    ("log_response_headers", .bool c.responseHeaders), ("log_response_body", .bool c.responseBody),
    ("log_level", .string c.level), ("max_body_size", .ofNat c.maxBodySize)])

/-- The level of the lines; names that are none mean debug. -/
def logLevel (c : CallLog) : Logging.Level :=
  let names := [("error", Logging.Level.error), ("warn", .warn), ("info", .info), ("debug", .debug),
    ("trace", .trace)]
  (names.lookup (Text.lower c.level)).getD .debug

/-- A header field as a line of text. -/
def headerLine (f : Http.HeaderName × Http.HeaderValue) : String :=
  f.1.text ++ ": " ++ if f.2.sensitive then "***" else f.2.text?.getD "<binary>"

/-- A body as text. -/
def bodyText (c : CallLog) (bytes : Bytes) : String :=
  if bytes.isEmpty then "[Empty body]"
  else if c.maxBodySize < bytes.length then
    "[Body truncated, showing " ++ toString c.maxBodySize ++ "/" ++ toString bytes.length ++ " bytes] "
      ++ Text.decodeLossy (bytes.take c.maxBodySize)
  else Text.decodeLossy bytes

/-- The tag of a call. -/
def tag (call : CallContext) : String :=
  call.methodKey ++ ":" ++ String.ofList (call.id.toList.take 8)

/-- A time in milliseconds, in parentheses. -/
def millis (d : Duration) : String := "(" ++ toString (d.nanos / tenTo 6) ++ "ms)"

/-- The lines of a notice: the tag, and what follows it. -/
def lines {W : Type} (c : CallLog) : Notice W → String × List String
  | .requestStarted call r =>
    (tag call, ("--> " ++ call.method.text ++ " " ++ call.uri) ::
      if c.requestHeaders then (Http.Headers.fields r.headers).map fun f => "--> " ++ headerLine f else [])
  | .requestBody call chunk => (tag call, if c.requestBody then ["--> " ++ c.bodyText chunk] else [])
  | .responseReceived call status headers elapsed =>
    (tag call, ("<-- " ++ toString status ++ " " ++ millis elapsed) ::
      if c.responseHeaders then (Http.Headers.fields headers).map fun f => "<-- " ++ headerLine f else [])
  | .bodyElement call element elapsed =>
    (tag call, if c.responseBody then ["<-- " ++ c.bodyText element.toBytes ++ " " ++ millis elapsed] else [])
  | .errorReceived call e elapsed => (tag call, ["<-- ERROR " ++ e.text ++ " " ++ millis elapsed])
  | .retryAttempt methodKey retry e => (methodKey, ["retry #" ++ toString retry ++ " after: " ++ e.text])

/-- Writes what it hears to the log. -/
def listener {W : Type} [Ambient W] (c : CallLog) : Listener W where
  hear := fun n w =>
    let (tag, texts) := c.lines n
    (texts.foldl (fun w t => Ambient.record c.logLevel "ReactiveLogger" ("[" ++ tag ++ "] " ++ t) w) w, false)

end CallLog
end Courier.Listener
