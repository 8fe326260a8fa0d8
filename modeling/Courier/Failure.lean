import Courier.Config.Error
import Courier.Duration
import Courier.Json.Fault
import Courier.Text.Utf8

/-! Why a call failed.

    A failure is a value: the retry policy sees it, and the caller may see the same one afterwards. -/

namespace Courier

/-- Where the way to the server broke. -/
inductive TransportKind where
  | connect
  | request
  | body
  | redirect
  | other
deriving DecidableEq, Repr

/-- The kind in words. -/
def TransportKind.text : TransportKind → String
  | .connect => "connect"
  | .request => "request"
  | .body => "body"
  | .redirect => "redirect"
  | .other => "other"

/-- A response that was turned into a failure. -/
structure StatusFailure where
  methodKey : String
  status : Nat
  reason : String
  body : Option Bytes
  retryAfter : Option Duration
deriving DecidableEq

/-- Why a call failed. -/
inductive Failure where
  | transport (kind : TransportKind) (message : String)
  | timeout (limit : Duration)
  | status (details : StatusFailure)
  | decode (message : String)
  | invalidRequest (message : String)
  | configuration (message : String)
  | other (message : String)
deriving DecidableEq

namespace Failure

/-- The name of the kind of failure. -/
def kind : Failure → String
  | .transport _ _ => "Transport"
  | .timeout _ => "Timeout"
  | .status _ => "Status"
  | .decode _ => "Decode"
  | .invalidRequest _ => "InvalidRequest"
  | .configuration _ => "Configuration"
  | .other _ => "Other"

/-- The failure in words. -/
def text : Failure → String
  | .transport kind message => "transport error (" ++ kind.text ++ "): " ++ message
  | .timeout limit => "request timed out after " ++ limit.text
  | .status s => "status " ++ toString s.status ++ " reading " ++ s.methodKey ++ ": " ++ s.reason
  | .decode message => "decode error: " ++ message
  | .invalidRequest message => "invalid request: " ++ message
  | .configuration message => "configuration error: " ++ message
  | .other message => message

/-- The delay that the server asked for. -/
def retryAfter : Failure → Option Duration
  | .status s => s.retryAfter
  | _ => none

/-- Whether trying again may help: the way to the server broke, or the status is 429 or `5xx`. -/
def isTransient : Failure → Bool
  | .transport _ _ => true
  | .timeout _ => true
  | .status s => s.status == 429 || (500 ≤ s.status && s.status < 600)
  | _ => false

/-- A JSON text that could not be read. -/
def ofJson (f : Json.Fault) : Failure := .decode f.text

/-- A configuration that could not be read. -/
def ofConfig (e : ConfigError) : Failure := .configuration e.text

end Failure
end Courier
