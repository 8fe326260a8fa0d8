import Courier.Pattern.Cursor
import Courier.Pattern.Tree
import Courier.Text.Piece

/-! What follows a backslash in a pattern.

    A sign stands for itself; a letter stands for a control, an edge or a class, or opens a code point or
    a property. Letters and digits without a meaning are faults. -/

namespace Courier.Pattern

/-- Signs that have a meaning of their own. -/
def isSign (c : Char) : Bool :=
  ['\\', '.', '+', '*', '?', '(', ')', '|', '[', ']', '\x7b', '\x7d', '^', '$', '#', '&', '-', '~'].contains c

/-- Characters that stand for themselves behind a backslash. -/
def standsForItself (c : Char) : Bool :=
  isSign c || (c.toNat < 128 && !c.isAlphanum && c != '<' && c != '>')

/-- The control that a letter stands for. -/
def controlOf? : Char → Option Char
  | 'a' => some (Char.ofNat 7)
  | 'f' => some (Char.ofNat 12)
  | 't' => some '\t'
  | 'n' => some '\n'
  | 'r' => some '\r'
  | 'v' => some (Char.ofNat 11)
  | _ => none

/-- The edge that a letter or sign stands for. -/
def edgeOf? : Char → Option Edge
  | 'A' => some .textStart
  | 'z' => some .textStop
  | 'b' => some (.word .either)
  | 'B' => some (.word .neither)
  | '<' => some (.word .start)
  | '>' => some (.word .stop)
  | _ => none

/-- The class that a letter stands for, and whether it is negated. -/
def shorthandOf? : Char → Option (Bool × Named)
  | 'd' => some (false, .digit)
  | 's' => some (false, .space)
  | 'w' => some (false, .word)
  | 'D' => some (true, .digit)
  | 'S' => some (true, .space)
  | 'W' => some (true, .word)
  | _ => none

/-- Edges of words that go by a name. -/
def wordEdgeNamed? (name : String) : Option WordEdge :=
  [("start", .start), ("end", .stop), ("start-half", .halfStart), ("end-half", .halfStop)].lookup name

/-- Whether a character is a hexadecimal digit. -/
def isHexadecimal (c : Char) : Bool := (Text.hexDigit? c).isSome

/-- So many hexadecimal digits. -/
def readDigits : Nat → Cursor → Except Fault (List Char × Cursor)
  | 0, c => .ok ([], c)
  | n + 1, c => match c.peek with
    | none => .error (Cause.escapeEnd.at c.here)
    | some d => do
      if !isHexadecimal d then .error (Cause.hexadecimalDigit.at c.char)
      let (ds, c) ← readDigits n c.next
      return (d :: ds, c)

/-- How many digits a code point has without braces. -/
def digitsBehind : Char → Nat
  | 'x' => 2
  | 'u' => 4
  | _ => 8

/-- A code point; `start` is where its backslash is, and the cursor is at its letter. -/
def readCodePoint (start : Place) (letter : Char) (c : Cursor) : Except Fault (Literal × Cursor) := do
  let c := c.next
  if c.atEnd then .error (Cause.escapeEnd.at c.here)
  if c.isAt '\x7b' then
    let (digits, stop) := c.next.takeAll isHexadecimal
    if stop.atEnd then .error (Cause.escapeEnd.at (stop.since c.place))
    if !stop.isAt '\x7d' then .error (Cause.hexadecimalDigit.at stop.char)
    let rest := stop.next
    if digits.isEmpty then .error (Cause.emptyHexadecimal.at (rest.since c.place))
    match Text.charOfHex? digits with
    | some ch => return (⟨rest.since start, ch, false⟩, rest)
    | none => .error (Cause.invalidHexadecimal.at (stop.since c.bump.place))
  else
    let (digits, rest) ← readDigits (digitsBehind letter) c
    match Text.charOfHex? digits with
    | some ch => return (⟨rest.since start, ch, letter == 'x'⟩, rest)
    | none => .error (Cause.invalidHexadecimal.at (rest.since c.place))

/-- A property; the cursor is at its letter. -/
def readProperty (start : Place) (letter : Char) (c : Cursor) : Except Fault (CharClass × Cursor) := do
  let negated := letter == 'P'
  let c := c.next
  match c.peek with
  | none => .error (Cause.escapeEnd.at c.here)
  | some ch =>
    if ch == '\x7b' then
      let (name, stop) := c.next.takeAll (· != '\x7d')
      if stop.atEnd then .error (Cause.escapeEnd.at stop.here)
      return (.property (stop.bump.since start) negated name, stop.bump)
    else if ch == '\\' then .error (Cause.invalidProperty.at c.char)
    else return (.property (c.next.since start) negated [ch], c.next)

/-- Characters of the names of edges. -/
def isEdgeChar (c : Char) : Bool := c.isAlpha || c == '-'

/-- The name in braces of an edge of a word, if it is one; the cursor is at the brace. -/
def readWordEdge (start : Place) (c : Cursor) : Except Fault (Option (WordEdge × Cursor)) := do
  let inner := c.next
  match inner.peek with
  | none => .error (Cause.wordEdgeEnd.at (inner.since start))
  | some ch =>
    if !isEdgeChar ch then return none
    let (name, stop) := inner.takeAll isEdgeChar
    if !stop.isAt '\x7d' then .error (Cause.openWordEdge.at (stop.since c.place))
    match wordEdgeNamed? (String.ofList name) with
    | some kind => return some (kind, stop.bump)
    | none => .error (Cause.unknownWordEdge.at (stop.since inner.place))

/-- An edge; the cursor is behind its letter. -/
def readEdge (start : Place) (edge : Edge) (c : Cursor) : Except Fault (Tree × Cursor) := do
  if edge == .word .either && c.isAt '\x7b' then
    if let some (kind, rest) ← readWordEdge start c then
      return (.edge (rest.since start) (.word kind), rest)
  return (.edge (c.since start) edge, c)

/-- What a backslash opens; the cursor is at the backslash. -/
def readEscape (c : Cursor) : Except Fault (Tree × Cursor) := do
  let start := c.place
  let c := c.bump
  match c.peek with
  | none => .error (Cause.escapeEnd.at (c.since start))
  | some ch =>
    let rest := c.bump
    let span := rest.since start
    if ch.isDigit then .error (Cause.backreference.at span)
    else if ['x', 'u', 'U'].contains ch then
      let (l, rest) ← readCodePoint start ch c
      return (.literal l, rest)
    else if ['p', 'P'].contains ch then
      let (p, rest) ← readProperty start ch c
      return (.ofClass p, rest)
    else if standsForItself ch then return (.literal ⟨span, ch, false⟩, rest)
    else if let some (negated, kind) := shorthandOf? ch then
      return (.ofClass (.shorthand span negated kind), rest)
    else if let some control := controlOf? ch then return (.literal ⟨span, control, false⟩, rest)
    else if let some edge := edgeOf? ch then readEdge start edge rest
    else .error (Cause.unknownEscape.at span)

end Courier.Pattern
