import Courier.Logging.Level

/-! Severities of structured records.

    There is one more than there are levels: critical, graver than an error. -/

namespace Courier.Logging

/-- Severities of structured records, the gravest first. -/
inductive Severity where
  | critical
  | error
  | warning
  | info
  | debug
  | trace
deriving DecidableEq, Repr

namespace Severity

/-- The name of a severity. -/
def text : Severity → String
  | .critical => "CRITICAL"
  | .error => "ERROR"
  | .warning => "WARNING"
  | .info => "INFO"
  | .debug => "DEBUG"
  | .trace => "TRACE"

/-- The name of a severity in four letters. -/
def mark : Severity → String
  | .critical => "CRIT"
  | .error => "ERRO"
  | .warning => "WARN"
  | .info => "INFO"
  | .debug => "DEBG"
  | .trace => "TRCE"

/-- Severities by number: the gravest is 0. -/
def rank : Severity → Nat
  | .critical => 0
  | .error => 1
  | .warning => 2
  | .info => 3
  | .debug => 4
  | .trace => 5

/-- The severity of a level. -/
def ofLevel : Level → Severity
  | .error => .error
  | .warn => .warning
  | .info => .info
  | .debug => .debug
  | .trace => .trace

/-- The least grave severity that a filter lets pass; a critical record always passes. -/
def ofFilter : Filter → Severity
  | .off => .critical
  | .upTo l => ofLevel l

end Severity
end Courier.Logging
