import Courier.Config.Basic
import Courier.Interceptor.Headers
import Courier.Listener.CallLog
import Courier.Retry.Policy

/-! The settings of a client.

    They are read from `feign.client.<name>`, laid over `feign.client.default`. -/

namespace Courier.Config

/-- Settings of the basic retry policy: the first delay, and the cap of a growing one. -/
structure RetryProperties where
  maxRetries : Nat
  backoffMillis : Nat
  maxBackoffMillis : Option Nat
deriving DecidableEq, Repr

/-- Settings of the log of calls. -/
structure LogProperties where
  level : String
  verbose : Bool
  maxBodySize : Nat
deriving DecidableEq, Repr

/-- An interceptor by its kind. -/
structure InterceptorProperties where
  kind : String
  config : Json

/-- The settings of a client. -/
structure Properties where
  target : Option String
  connectTimeoutMillis : Option Nat
  readTimeoutMillis : Option Nat
  decode404 : Bool
  followRedirects : Bool
  defaultHeaders : List (String × String)
  retry : Option RetryProperties
  log : Option LogProperties
  interceptors : List InterceptorProperties

/-- A setting that may be missing, as diagnostics show it. -/
def quotedSetting : Option String → String
  | some s => "Some(" ++ s ++ ")"
  | none => "None"

/-- Times are counted in 64 bits. -/
def word : Json.Decoder Nat := Json.Decoder.natural 64 "u64"

namespace RetryProperties

/-- Reads settings. -/
def decoder : Json.Decoder RetryProperties :=
  Json.Decoder.record "RetryProperties" [
    .of "max_retries" false Listener.CallLog.size fun v p => { p with maxRetries := v },
    .of "backoff_ms" false word fun v p => { p with backoffMillis := v },
    .of "max_backoff_ms" false (Json.Decoder.optional word) fun v p => { p with maxBackoffMillis := v }]
    ⟨0, 0, none⟩

/-- Settings as JSON. -/
def toJson (p : RetryProperties) : Json :=
  .object (Members.ofList [
    ("max_retries", .ofNat p.maxRetries), ("backoff_ms", .ofNat p.backoffMillis),
    ("max_backoff_ms", (p.maxBackoffMillis.map Json.ofNat).getD .null)])

/-- Settings as diagnostics show them. -/
def quoted (p : RetryProperties) : String :=
  "RetryProperties \x7b max_retries: " ++ toString p.maxRetries ++ ", backoff_ms: "
    ++ toString p.backoffMillis ++ ", max_backoff_ms: " ++ quotedSetting (p.maxBackoffMillis.map toString)
    ++ " \x7d"

/-- The backoff: none without a first delay, fixed without a cap. -/
def backoff (p : RetryProperties) : Retry.Backoff :=
  if p.backoffMillis == 0 then .none
  else match p.maxBackoffMillis with
    | some max => .exponential (.ofMillis p.backoffMillis) (.ofMillis max)
    | none => .fixed (.ofMillis p.backoffMillis)

/-- The policy. -/
def policy (p : RetryProperties) : Retry.BasicPolicy :=
  { Retry.BasicPolicy.transient p.maxRetries with backoff := p.backoff }

end RetryProperties

namespace LogProperties

/-- Reads settings. -/
def decoder : Json.Decoder LogProperties :=
  Json.Decoder.record "LoggerProperties" [
    .of "level" false Json.Decoder.string fun v p => { p with level := v },
    .of "verbose" false Json.Decoder.bool fun v p => { p with verbose := v },
    .of "max_body_size" false Listener.CallLog.size fun v p => { p with maxBodySize := v }]
    ⟨"debug", false, 1024⟩

/-- Settings as JSON. -/
def toJson (p : LogProperties) : Json :=
  .object (Members.ofList [
    ("level", .string p.level), ("verbose", .bool p.verbose), ("max_body_size", .ofNat p.maxBodySize)])

/-- Settings as diagnostics show them. -/
def quoted (p : LogProperties) : String :=
  "LoggerProperties \x7b level: " ++ Text.quoted p.level ++ ", verbose: " ++ toString p.verbose
    ++ ", max_body_size: " ++ toString p.maxBodySize ++ " \x7d"

/-- The log of calls. -/
def callLog (p : LogProperties) : Listener.CallLog :=
  { if p.verbose then Listener.CallLog.verbose else Listener.CallLog.brief with
    level := p.level, maxBodySize := p.maxBodySize }

end LogProperties

namespace InterceptorProperties

/-- Reads settings. -/
def decoder : Json.Decoder InterceptorProperties :=
  Json.Decoder.record "InterceptorProperties" [
    .of "type" true Json.Decoder.string fun v p => { p with kind := v },
    .of "config" false Json.Decoder.json fun v p => { p with config := v }] ⟨"", .null⟩

/-- Settings as JSON. -/
def toJson (p : InterceptorProperties) : Json :=
  .object (Members.ofList [("type", .string p.kind), ("config", p.config)])

/-- Settings as diagnostics show them. -/
def quoted (p : InterceptorProperties) : String :=
  "InterceptorProperties \x7b kind: " ++ Text.quoted p.kind ++ ", config: " ++ p.config.quoted ++ " \x7d"

end InterceptorProperties

namespace Properties

/-- Nothing set. -/
def blank : Properties := ⟨none, none, none, false, true, [], none, none, []⟩

/-- Reads settings. -/
def decoder : Json.Decoder Properties :=
  Json.Decoder.record "ClientProperties" [
    .of "target" false (Json.Decoder.optional Json.Decoder.string) fun v p => { p with target := v },
    .of "connect_timeout_ms" false (Json.Decoder.optional word) fun v p =>
      { p with connectTimeoutMillis := v },
    .of "read_timeout_ms" false (Json.Decoder.optional word) fun v p => { p with readTimeoutMillis := v },
    .of "decode404" false Json.Decoder.bool fun v p => { p with decode404 := v },
    .of "follow_redirects" false Json.Decoder.bool fun v p => { p with followRedirects := v },
    .of "default_headers" false Interceptor.HeaderConfig.dictionary fun v p => { p with defaultHeaders := v },
    .of "retry" false (Json.Decoder.optional RetryProperties.decoder) fun v p => { p with retry := v },
    .of "logger" false (Json.Decoder.optional LogProperties.decoder) fun v p => { p with log := v },
    .of "interceptors" false (Json.Decoder.list InterceptorProperties.decoder) fun v p =>
      { p with interceptors := v }] blank

/-- An optional number as JSON. -/
def numberJson (n : Option Nat) : Json := (n.map Json.ofNat).getD .null

/-- Settings as JSON. -/
def toJson (p : Properties) : Json :=
  .object (Members.ofList [
    ("target", (p.target.map Json.string).getD .null),
    ("connect_timeout_ms", numberJson p.connectTimeoutMillis),
    ("read_timeout_ms", numberJson p.readTimeoutMillis),
    ("decode404", .bool p.decode404), ("follow_redirects", .bool p.followRedirects),
    ("default_headers", Interceptor.HeaderConfig.dictionaryJson p.defaultHeaders),
    ("retry", (p.retry.map RetryProperties.toJson).getD .null),
    ("logger", (p.log.map LogProperties.toJson).getD .null),
    ("interceptors", .array (p.interceptors.map InterceptorProperties.toJson))])

/-- Settings as diagnostics show them. -/
def quoted (p : Properties) : String :=
  let headers := p.defaultHeaders.map fun h => Text.quoted h.1 ++ ": " ++ Text.quoted h.2
  "ClientProperties \x7b target: " ++ quotedSetting (p.target.map Text.quoted)
    ++ ", connect_timeout_ms: " ++ quotedSetting (p.connectTimeoutMillis.map toString)
    ++ ", read_timeout_ms: " ++ quotedSetting (p.readTimeoutMillis.map toString)
    ++ ", decode404: " ++ toString p.decode404 ++ ", follow_redirects: " ++ toString p.followRedirects
    ++ ", default_headers: \x7b" ++ String.intercalate ", " headers ++ "\x7d"
    ++ ", retry: " ++ quotedSetting (p.retry.map RetryProperties.quoted)
    ++ ", logger: " ++ quotedSetting (p.log.map LogProperties.quoted)
    ++ ", interceptors: [" ++ String.intercalate ", " (p.interceptors.map InterceptorProperties.quoted)
    ++ "] \x7d"

/-- How long connecting may take. -/
def connectTimeout (p : Properties) : Option Duration := p.connectTimeoutMillis.map .ofMillis

/-- How long the headers of an answer may take. -/
def readTimeout (p : Properties) : Option Duration := p.readTimeoutMillis.map .ofMillis

/-- The section of all clients. -/
def sectionKey : String := "feign.client"

/-- The client whose settings all others start from. -/
def defaultClient : String := "default"

/-- The settings of a client. -/
def load (c : Config) (name : String) : Except ConfigError Properties := do
  let defaults ← c.raw (sectionKey ++ "." ++ defaultClient)
  let named ← if name == defaultClient then .ok none else c.raw (sectionKey ++ "." ++ name)
  let base := defaults.getD .emptyObject
  let merged := match named with
    | some overlay => merge base overlay
    | none => base
  match decoder.ofJson merged with
  | .ok p => return p
  | .error f => throw (.parse ("invalid properties for client '" ++ name ++ "': " ++ f.text))

end Properties
end Courier.Config
