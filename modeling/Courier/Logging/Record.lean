import Courier.Json.Printer
import Courier.Logging.Settings

/-! Lines of the log. -/

namespace Courier.Logging

/-- A log record: where it comes from, and when and on which thread it is made. -/
structure Record where
  moment : String
  target : String
  location : String
  thread : String
  message : String

/-- A text whose further lines are set in. -/
def setIn (text : String) : String :=
  String.ofList (text.toList.flatMap fun c => if c == '\n' then ['\n', ' ', ' ', ' ', ' '] else [c])

/-- A word followed by blanks up to a width. -/
def padded (width : Nat) (word : String) : String :=
  word ++ String.ofList (List.replicate (width - word.length) ' ')

/-- The plain line of a record. -/
def Record.plainLine (r : Record) (level : Level) : String :=
  "[" ++ r.moment ++ " " ++ padded 5 level.text ++ " " ++ r.target ++ "] " ++ setIn r.message

/-- The fields that a style gives every record, the one added last first. -/
def Style.fields (s : Style) (r : Record) : List (String × String) :=
  s.staticFields.reverse ++ (if s.withThread then [("thread", r.thread)] else [])
    ++ (if s.withLocation then [("location", r.location)] else [])

/-- A value as a line of text shows it: a string without its quotation marks. -/
def shownValue : Json → String
  | .string s => s
  | j => j.text

/-- The line of a structured record for people. -/
def Style.terminalLine (s : Style) (severity : Severity) (r : Record) (own : List (String × Json)) :
    String :=
  let fields := own.map (fun f => (f.1, shownValue f.2)) ++ s.fields r
  r.moment ++ " " ++ severity.mark ++ " " ++ r.message
    ++ String.join (fields.map fun f => ", " ++ f.1 ++ ": " ++ f.2)

/-- The members of a structured record for programs. -/
def Style.members (s : Style) (severity : Severity) (r : Record) (own : List (String × Json)) :
    List (String × Json) :=
  Members.ofList ([("ts", .string r.moment), ("level", .string severity.mark), ("msg", .string r.message)]
    ++ (s.fields r).map (fun f => (f.1, .string f.2)) ++ own)

/-- Where lines go. -/
inductive Channel where
  | output
  | errors
deriving DecidableEq, Repr

/-- The line of a structured record and its channel, if the style lets it pass. -/
def Style.line (s : Style) (severity : Severity) (r : Record) (own : List (String × Json)) :
    Option (Channel × String) :=
  if s.least.rank < severity.rank then none
  else match s.form with
    | .terminal => some (.errors, s.terminalLine severity r own)
    | .json => some (.output, (Json.object (s.members severity r own)).text)

end Courier.Logging
