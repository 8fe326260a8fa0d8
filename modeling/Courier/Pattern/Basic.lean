import Courier.Pattern.Meaning
import Courier.Pattern.Reader

/-! Patterns that texts are searched for. -/

namespace Courier

/-- A pattern: the text that writes it, and what it stands for. -/
structure Pattern where
  text : String
  expr : Pattern.Expr
deriving DecidableEq, Repr

namespace Pattern

/-- The most that a machine for a pattern may take. -/
def largestSize : Nat := 10485760

/-- The complaint about a pattern that takes more. -/
def tooLarge : String := "Compiled regex exceeds size limit of " ++ toString largestSize ++ " bytes."

/-- Whether a machine can be built that reads a pattern forward, and one that reads it back; between the
    two, words beyond ASCII turn out to be unknown. -/
def built (e : Expr) : Except String Unit :=
  if largestSize < e.size false then .error tooLarge
  else if e.asksForWords then .error "error building NFA"
  else if largestSize < e.size true then .error tooLarge
  else .ok ()

/-- The pattern that a text writes, or why there is none. -/
def ofText (text : String) : Except String Pattern :=
  match Tree.ofText text.toList with
  | .error fault => .error (fault.report text.toList)
  | .ok tree => match tree.meaning .initial with
    | .error fault => .error (fault.report text.toList)
    | .ok (expr, _) => do
      built expr
      return ⟨text, expr⟩

/-- Whether a text holds the pattern. -/
def occursIn (p : Pattern) (text : String) : Bool := p.expr.occursIn text.toList

end Pattern
end Courier
