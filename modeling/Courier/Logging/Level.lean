import Courier.Text.Letter

/-! How grave a log record is, and which records pass. -/

namespace Courier.Logging

/-- Levels of log records, the gravest first. -/
inductive Level where
  | error
  | warn
  | info
  | debug
  | trace
deriving DecidableEq, Repr

namespace Level

/-- The name of a level. -/
def text : Level → String
  | .error => "ERROR"
  | .warn => "WARN"
  | .info => "INFO"
  | .debug => "DEBUG"
  | .trace => "TRACE"

/-- Levels by number: the gravest is 1. -/
def rank : Level → Nat
  | .error => 1
  | .warn => 2
  | .info => 3
  | .debug => 4
  | .trace => 5

end Level

/-- Which records pass: none, or those up to a level. -/
inductive Filter where
  | off
  | upTo (level : Level)
deriving DecidableEq, Repr

namespace Filter

/-- The name of a filter. -/
def text : Filter → String
  | .off => "OFF"
  | .upTo l => l.text

/-- Filters by number: the narrowest is 0. -/
def rank : Filter → Nat
  | .off => 0
  | .upTo l => l.rank

/-- Whether a record of the level passes. -/
def admits (f : Filter) (l : Level) : Bool := l.rank ≤ f.rank

/-- All filters. -/
def all : List Filter := [.off, .upTo .error, .upTo .warn, .upTo .info, .upTo .debug, .upTo .trace]

/-- The filter of a name, capital or small. -/
def ofText? (s : String) : Option Filter := all.find? fun f => f.text == Text.upperAscii s

/-- The wider one of two filters. -/
def max (f g : Filter) : Filter := if f.rank ≤ g.rank then g else f

end Filter
end Courier.Logging
