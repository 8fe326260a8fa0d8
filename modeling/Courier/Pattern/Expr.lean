import Courier.Pattern.CharSet
import Courier.Pattern.Tree

/-! What patterns stand for.

    A pattern leads from places in a text to places in it. A mark for each place, before the first
    character up to behind the last one, says whether it is reached; all marks move at once, so a text is
    searched in time that grows with the text and with the pattern. -/

namespace Courier.Pattern

/-- Conditions on the characters around a place. -/
inductive Look where
  | textStart
  | textStop
  | lineStart (returns : Bool)
  | lineStop (returns : Bool)
  | word (kind : WordEdge)
  | anyWord (kind : WordEdge)
deriving DecidableEq, Repr

/-- Whether a character beside a place belongs to a word in ASCII. -/
def inWord (c : Option Char) : Bool := c.any fun c => c.isAlphanum || c == '_'

/-- Whether words have an edge between two characters. -/
def WordEdge.holds (kind : WordEdge) (before after : Option Char) : Bool := match kind with
  | .either => inWord before != inWord after
  | .neither => inWord before == inWord after
  | .start => !inWord before && inWord after
  | .stop => inWord before && !inWord after
  | .halfStart => !inWord before
  | .halfStop => !inWord after

/-- Whether the condition holds between two characters. -/
def Look.holds (look : Look) (before after : Option Char) : Bool := match look with
  | .textStart => before.isNone
  | .textStop => after.isNone
  | .lineStart false => before.isNone || before == some '\n'
  | .lineStart true => before.isNone || before == some '\n' || (before == some '\r' && after != some '\n')
  | .lineStop false => after.isNone || after == some '\n'
  | .lineStop true => after.isNone || after == some '\r' || (after == some '\n' && before != some '\r')
  | .word kind => kind.holds before after
  | .anyWord kind => kind.holds before after

/-- What a pattern stands for. -/
inductive Expr where
  | nothing
  | chars (set : CharSet)
  | look (kind : Look)
  | times (least : Nat) (most : Option Nat) (e : Expr)
  | kept (e : Expr)
  | both (first second : Expr)
  | either (first second : Expr)
deriving DecidableEq, Repr

/-- Marks of the places of a text. -/
abbrev Marks := List Bool

/-- Whether both have a mark. -/
def Marks.and (a b : Marks) : Marks := List.zipWith (· && ·) a b

/-- Whether one of both has a mark. -/
def Marks.or (a b : Marks) : Marks := List.zipWith (· || ·) a b

/-- The characters before and after each place. -/
def surroundings (text : List Char) : List (Option Char × Option Char) :=
  (none :: text.map some).zip (text.map some ++ [none])

/-- Moves marks so many times. -/
def moveTimes (move : Marks → Marks) : Nat → Marks → Marks
  | 0, m => m
  | n + 1, m =>
    let next := move m
    if next == m then m else moveTimes move n next

/-- Moves marks up to so many times; all that are met on the way stay. -/
def moveUpTo (move : Marks → Marks) : Nat → Marks → Marks
  | 0, m => m
  | n + 1, m =>
    let next := m.or (move m)
    if next == m then m else moveUpTo move n next

namespace Expr

/-- The places that are reached from marked ones. -/
def reach (text : List Char) : Expr → Marks → Marks
  | .nothing, m => m
  | .chars set, m => false :: List.zipWith (fun mark c => mark && set.holds c) m text
  | .look kind, m => m.and ((surroundings text).map fun s => kind.holds s.1 s.2)
  | .times least none e, m => moveUpTo (e.reach text) (text.length + 1) (moveTimes (e.reach text) least m)
  | .times least (some most) e, m =>
    moveUpTo (e.reach text) (most - least) (moveTimes (e.reach text) least m)
  | .kept e, m => e.reach text m
  | .both a b, m => b.reach text (a.reach text m)
  | .either a b, m => (a.reach text m).or (b.reach text m)

/-- Whether the pattern is somewhere in a text. -/
def occursIn (e : Expr) (text : List Char) : Bool :=
  (e.reach text (List.replicate (text.length + 1) true)).any id

/-- Whether the pattern stays where it is. -/
def isStill : Expr → Bool
  | .nothing => true
  | .chars _ => false
  | .look _ => true
  | .times _ _ e => e.isStill
  | .kept e => e.isStill
  | .both a b => a.isStill && b.isStill
  | .either a b => a.isStill && b.isStill

/-- The pattern repeated. What stays where it is need not be repeated more than once. -/
def repeated (least : Nat) (most : Option Nat) (e : Expr) : Expr :=
  let least := if e.isStill then min least 1 else least
  let most := if e.isStill then some (min (most.getD 1) 1) else most
  if most == some 0 then .nothing
  else if least == 1 && most == some 1 then e
  else .times least most e

/-- Whether the pattern asks for words beyond ASCII. -/
def asksForWords : Expr → Bool
  | .nothing => false
  | .chars _ => false
  | .look (.anyWord _) => true
  | .look _ => false
  | .times _ _ e => e.asksForWords
  | .kept e => e.asksForWords
  | .both a b => a.asksForWords || b.asksForWords
  | .either a b => a.asksForWords || b.asksForWords

/-- Whether the pattern is a choice. -/
def isChoice : Expr → Bool
  | .either _ _ => true
  | _ => false

/-- What a state of a machine takes. -/
def stateSize : Nat := 32

/-- What a way out of a state that has several takes. -/
def waySize : Nat := 4

/-- What a step of a state that reads one of several ranges takes. -/
def stepSize : Nat := 8

/-- Whether a set has ASCII characters only. -/
def isAsciiSet (set : CharSet) : Bool := set.all fun r => r.2 < 128

/-- What a machine takes that reads a character of a set, forward or back. Beyond ASCII a character has
    several octets, the last of which are read by the same states forward. -/
def setSize (back : Bool) (set : CharSet) : Nat := match set with
  | [] => stateSize
  | [(a, b)] =>
    if a == b then stateSize * (Char.ofNat a).utf8Size
    else if b < 128 then 2 * stateSize
    else if back then 29 * stateSize + 9 * waySize else 9 * stateSize + 9 * stepSize
  | ranges =>
    if isAsciiSet ranges then 2 * stateSize + ranges.length * stepSize
    else if back then (28 + ranges.length) * stateSize + (8 + ranges.length) * waySize
    else 9 * stateSize + (8 + ranges.length) * stepSize

/-- What a machine takes that reads the pattern, forward or back. What a group holds is only kept
    forward. -/
def size (back : Bool) : Expr → Nat
  | .nothing => stateSize
  | .chars set => setSize back set
  | .look _ => stateSize
  | .times least none e => max 1 least * e.size back + stateSize + 2 * waySize
  | .times least (some most) e =>
    if least == most then least * e.size back
    else least * e.size back + stateSize + (most - least) * (e.size back + stateSize + 2 * waySize)
  | .kept e => e.size back + (if back then 0 else 2 * stateSize)
  | .both a b => a.size back + b.size back
  | .either a b =>
    a.size back + b.size back + waySize + (if b.isChoice then 0 else waySize + 2 * stateSize)

end Expr
end Courier.Pattern
