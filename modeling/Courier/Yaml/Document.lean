import Courier.Yaml.Value

/-! Documents in YAML 1.1 with the scalars of YAML 1.2. -/

namespace Courier.Yaml

/-- A document that cannot be read: the number of the line, if it is known. -/
structure Fault where
  line : Option Nat
deriving DecidableEq, Repr

/-- The fault in words. -/
def Fault.text (f : Fault) : String := match f.line with
  | some n => "malformed document at line " ++ toString (n + 1)
  | none => "malformed document"

/-- Collections are not nested deeper than this. -/
def maxDepth : Nat := 128

/-- The value of a document. Aliases may be followed a hundred times for each of its events. -/
def Tree.value? (t : Tree) : Option Value := match t.root with
  | none => some .null
  | some n => (valueOf t.targets maxDepth n (t.events * 100)).map (·.1)

/-- Reads a text that is one document; nothing written is null. -/
def parse (text : String) : Except Fault Value := do
  let cs := text.toList
  if !cs.all isAllowed then throw ⟨none⟩
  match tokens (settleEnds cs) with
  | .error line => throw ⟨some line⟩
  | .ok ts => match (tree ts).bind Tree.value? with
    | some v => return v
    | none => throw ⟨none⟩

end Courier.Yaml
