import Courier.Config.Basic
import Courier.Logging.Directive
import Courier.Logging.Record

/-! The log of a process.

    Only the first of its initialisations counts. It installs either a plain log, whose filter the
    surroundings may override by a specification, or a structured one. Where somebody else has
    installed a log before, that one stays. -/

namespace Courier.Logging

/-- Who takes the records. -/
inductive Sink where
  | nobody
  | foreign
  | plain (specification : Specification)
  | structured (style : Style)

/-- The log of a process: whether it was initialised, who takes the records, the widest filter, and the
    lines so far, the last one first. -/
structure Facility where
  override : Option String
  initialised : Bool
  sink : Sink
  widest : Filter
  lines : List (Channel × String)

namespace Facility

/-- A fresh process; `override` is the specification that its surroundings give. -/
def fresh (override : Option String) : Facility := ⟨override, false, .nobody, .off, []⟩

/-- Writes a line. -/
def write (line : Channel × String) (f : Facility) : Facility := { f with lines := line :: f.lines }

/-- Writes a structured record in a style, whatever log is installed. -/
def writeStyled (style : Style) (severity : Severity) (r : Record) (own : List (String × Json))
    (f : Facility) : Facility := match style.line severity r own with
  | some line => f.write line
  | none => f

/-- Whether records go to a structured log. -/
def isStructured (f : Facility) : Bool := match f.sink with
  | .structured _ => true
  | _ => false

/-- Whether somebody takes the records already. -/
def isTaken (f : Facility) : Bool := match f.sink with
  | .nobody => false
  | _ => true

/-- Logs a record. -/
def record (level : Level) (r : Record) (f : Facility) : Facility :=
  if !f.widest.admits level then f
  else match f.sink with
    | .nobody => f
    | .foreign => f
    | .plain s => if s.admits r.target level r.message then f.write (.errors, r.plainLine level) else f
    | .structured style => f.writeStyled style (.ofLevel level) r []

/-- The name of this part of the library in records. -/
def target : String := "reactive_feign::logging"

/-- A record of this part of the library. -/
def ownRecord (make : String → Record) (message : String) : Record := { make message with target := target }

/-- Installs a plain log, unless there is one. -/
def installPlain (filter : Filter) (make : String → Record) (f : Facility) : Facility :=
  let s := Specification.ofText (f.override.getD (Text.lowerAscii filter.text))
  let f := s.complaints.foldl (fun f c => f.write (.errors, "warning: " ++ c ++ ", ignoring it")) f
  if f.isTaken then f
  else
    let f := { f with sink := .plain s, widest := s.widest }
    f.record .info (ownRecord make ("Logging initialized at level: " ++ f.widest.text))

/-- Installs a structured log; where another log is in the way, tries a plain one. -/
def installStructured (filter : Filter) (style : Style) (make : String → Record) (f : Facility) :
    Facility :=
  if f.isTaken then
    installPlain filter make (f.write (.errors, "Failed to bridge log records into slog: attempted to set a"
      ++ " logger after the logging system was already initialized"))
  else
    let f := { f with sink := .structured { style with least := .ofFilter filter }, widest := filter }
    f.record .info (ownRecord make ("Structured logging initialized at level: " ++ filter.text))

/-- Runs an initialisation if it is the first. -/
def once (install : Facility → Facility) (f : Facility) : Facility :=
  if f.initialised then f else install { f with initialised := true }

/-- Initialises a plain log at a level, `info` if none is given. -/
def init (filter : Option Filter) (make : String → Record) : Facility → Facility :=
  once (installPlain (filter.getD (.upTo .info)) make)

/-- Initialises the log that the settings describe; a filter that is given goes before theirs. -/
def initWith (filter : Option Filter) (s : Settings) (make : String → Record) : Facility → Facility :=
  let filter := filter.getD s.filter
  once (if s.structured then installStructured filter s.style make else installPlain filter make)

/-- The key of the settings of logging. -/
def settingsKey : String := "feign.logging"

/-- Initialises the log by a configuration; settings that cannot be read are ignored with a warning. -/
def initFrom (c : Config) (make : String → Record) (f : Facility) : Facility :=
  match c.get Settings.decoder settingsKey with
  | .ok (some s) => initWith none s make f
  | .ok none => init none make f
  | .error e => (init none make f).record .warn (ownRecord make
      ("[Logging] Ignoring invalid '" ++ settingsKey ++ "' section: " ++ e.text))

/-- Installs a log of somebody else's that keeps nothing, unless there is one. -/
def occupy (f : Facility) : Facility := if f.isTaken then f else { f with sink := .foreign }

end Facility
end Courier.Logging
