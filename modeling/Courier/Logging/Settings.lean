import Courier.Json.Decoder
import Courier.Logging.Severity

/-! The settings of logging, read from `feign.logging`. -/

namespace Courier.Logging

/-- The forms of a structured record. -/
inductive Form where
  | terminal
  | json
deriving DecidableEq, Repr

/-- The name of a form. -/
def Form.text : Form → String
  | .terminal => "terminal"
  | .json => "json"

/-- How structured records are written. -/
structure Style where
  form : Form
  least : Severity
  withLocation : Bool
  withThread : Bool
  staticFields : List (String × String)
deriving DecidableEq, Repr

/-- The usual style. -/
def Style.usual : Style := ⟨.terminal, .info, true, true, []⟩

/-- The settings of logging. -/
structure Settings where
  structured : Bool
  format : String
  level : String
  includeLocation : Bool
  includeThreadId : Bool
  staticFields : List (String × String)
deriving DecidableEq, Repr

namespace Settings

/-- The settings where nothing is said. -/
def standard : Settings := ⟨false, "terminal", "info", true, true, []⟩

/-- Sets a field at its place in the order, replacing an earlier value. -/
def setField (key value : String) : List (String × String) → List (String × String)
  | [] => [(key, value)]
  | (k, v) :: rest =>
    if key == k then (key, value) :: rest
    else if key < k then (key, value) :: (k, v) :: rest
    else (k, v) :: setField key value rest

/-- Reads texts by key, in the order of the keys. -/
def fields : Json.Decoder (List (String × String)) := fun n =>
  (Json.Decoder.dictionary Json.Decoder.string n).map fun fs =>
    fs.foldl (fun acc f => setField f.1 f.2 acc) []

/-- Reads settings. -/
def decoder : Json.Decoder Settings :=
  Json.Decoder.record "LoggingConfig" [
    .of "structured" false Json.Decoder.bool fun v s => { s with structured := v },
    .of "format" false Json.Decoder.string fun v s => { s with format := v },
    .of "level" false Json.Decoder.string fun v s => { s with level := v },
    .of "include_location" false Json.Decoder.bool fun v s => { s with includeLocation := v },
    .of "include_thread_id" false Json.Decoder.bool fun v s => { s with includeThreadId := v },
    .of "static_fields" false fields fun v s => { s with staticFields := v }] standard

/-- Settings as JSON. -/
def toJson (s : Settings) : Json :=
  .object (Members.ofList [
    ("structured", .bool s.structured), ("format", .string s.format), ("level", .string s.level),
    ("include_location", .bool s.includeLocation), ("include_thread_id", .bool s.includeThreadId),
    ("static_fields", .object (Members.ofList (s.staticFields.map fun f => (f.1, .string f.2))))])

/-- The filter of the level; an unknown name means `info`. -/
def filter (s : Settings) : Filter := (Filter.ofText? s.level).getD (.upTo .info)

/-- The severity of the level's name; an unknown one means `info`. -/
def severity (name : String) : Severity := match Text.lower name with
  | "trace" => .trace
  | "debug" => .debug
  | "warn" => .warning
  | "error" => .error
  | "critical" => .critical
  | _ => .info

/-- The style that the settings describe. -/
def style (s : Settings) : Style :=
  ⟨if Text.lower s.format == "json" then .json else .terminal, severity s.level, s.includeLocation,
    s.includeThreadId, s.staticFields⟩

end Settings
end Courier.Logging
