import Courier.Logging.Level
import Courier.Pattern.Basic

/-! Which parts of a program log how much.

    A specification is a list such as `warn,store=debug`: a bare level holds everywhere, a part's own
    level for every target that begins with its name. The longest name that fits decides. -/

namespace Courier.Logging

/-- How much the targets that begin with a name log; without a name it holds for all. -/
structure Directive where
  target : Option String
  filter : Filter
deriving DecidableEq, Repr

/-- A specification as read: its directives, a pattern that messages must hold, and complaints. -/
structure Specification where
  directives : List Directive
  pattern : Option Pattern
  complaints : List String
deriving DecidableEq, Repr

namespace Directive

/-- Reads one directive, none if the entry is empty. -/
def ofEntry (entry : List Char) : Except String (Option Directive) :=
  let name (cs : List Char) : Option String := some (String.ofList cs)
  match Text.trimmed entry with
  | [] => .ok none
  | cs => match cs.splitOn '=' with
    | [bare] => match Filter.ofText? (String.ofList bare) with
      | some f => .ok (some ⟨none, f⟩)
      | none => .ok (some ⟨name bare, .upTo .trace⟩)
    | [target, level] => match Text.trimmed level with
      | [] => .ok (some ⟨name target, .upTo .trace⟩)
      | level => match Filter.ofText? (String.ofList level) with
        | some f => .ok (some ⟨name target, f⟩)
        | none => .error (String.ofList level)
    | _ => .error (String.ofList cs)

/-- Adds a directive in place of an earlier one for the same name. -/
def add (ds : List Directive) (d : Directive) : List Directive :=
  if ds.any fun e => e.target == d.target then
    ds.map fun e => if e.target == d.target then d else e
  else ds ++ [d]

/-- The length of the name in bytes. -/
def size (d : Directive) : Nat := (d.target.map String.utf8ByteSize).getD 0

/-- Whether the directive speaks of a target. -/
def covers (d : Directive) (target : String) : Bool := match d.target with
  | some name => target.startsWith name
  | none => true

end Directive

namespace Specification

/-- Takes one entry of a specification. -/
def takeEntry (s : Specification) (entry : List Char) : Specification :=
  match Directive.ofEntry entry with
  | .ok none => s
  | .ok (some d) => { s with directives := Directive.add s.directives d }
  | .error what => { s with complaints := s.complaints ++ ["invalid logging spec '" ++ what ++ "'"] }

/-- Reads the entries of a specification, which commas separate. -/
def ofEntries (entries : List Char) : Specification :=
  (entries.splitOn ',').foldl takeEntry ⟨[], none, []⟩

/-- Takes the pattern that messages must hold. -/
def takePattern (s : Specification) (text : String) : Specification := match Pattern.ofText text with
  | .ok p => { s with pattern := some p }
  | .error what => { s with complaints := s.complaints ++ ["invalid regex filter - " ++ what] }

/-- Reads a specification: entries, and after a slash the pattern to look for. -/
def ofText (text : String) : Specification := match text.toList.splitOn '/' with
  | [entries] => ofEntries entries
  | [entries, pattern] => (ofEntries entries).takePattern (String.ofList pattern)
  | _ => ⟨[], none, ["invalid logging spec '" ++ text ++ "' (too many '/'s)"]⟩

/-- The directives in force, shorter names first; where none is given, only errors pass. -/
def inForce (s : Specification) : List Directive := match s.directives with
  | [] => [⟨none, .upTo .error⟩]
  | ds => ds.mergeSort fun a b => a.size ≤ b.size

/-- Whether a record passes. -/
def admits (s : Specification) (target : String) (level : Level) (message : String) : Bool :=
  match s.inForce.reverse.find? fun d => d.covers target with
  | some d => d.filter.admits level && s.pattern.all (·.occursIn message)
  | none => false

/-- The widest filter in force. -/
def widest (s : Specification) : Filter := (s.inForce.map (·.filter)).foldl Filter.max .off

end Specification
end Courier.Logging
