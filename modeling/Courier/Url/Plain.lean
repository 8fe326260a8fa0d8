import Courier.Text.Composition
import Courier.Url.PlainTable
import Courier.Url.UnfitTable

/-! Plain text of domains.

    Domains that differ in case, width or ornament alone are one. Plain text has one form for each: every
    character is replaced by its plain form, and the whole is composed. -/

namespace Courier.Url

/-- ASCII characters that no domain may hold. -/
def isForbiddenInDomain (c : Char) : Bool :=
  c.toNat ≤ 32 || c.toNat == 127 ||
    ['%', '#', '/', ':', '<', '>', '?', '@', '[', '\\', ']', '^', '|'].contains c

/-- The item that a table of runs gives for `n`: each run starts at a number and has an item for each of
    those that follow. -/
def runItem? (runs : List (Nat × List α)) (n : Nat) : Option α :=
  runs.findSome? fun run => if run.1 ≤ n then run.2[n - run.1]? else none

/-- The plain form of a character beyond ASCII that has another one than itself. -/
def plainForm? (n : Nat) : Option (List Char) :=
  if Text.inRanges droppedRanges n then some []
  else ((Text.shifted? plainRuns n).map ([·])).or
    (((runItem? (plainLetters.map fun run => (run.1, run.2.toList)) n).map ([·])).or
      ((runItem? plainWords n).map String.toList))

/-- The plain form of a character that a domain may hold. -/
def plainChar? (c : Char) : Option (List Char) :=
  if c.toNat < 128 then some [c.toLower]
  else if Text.inRanges unfitRanges c.toNat then none
  else some ((plainForm? c.toNat).getD [c])

/-- The plain form of a domain, if it has one. -/
def plain? (cs : List Char) : Option (List Char) := do
  let forms ← cs.mapM plainChar?
  let plain := Text.composed forms.flatten
  if plain.any fun c => c.toNat < 128 && isForbiddenInDomain c then failure
  return plain

end Courier.Url
