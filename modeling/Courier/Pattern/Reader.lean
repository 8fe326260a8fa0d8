import Courier.Pattern.Bracket
import Courier.Pattern.Group

/-! Reading patterns.

    Parts stand side by side; bars separate branches, parentheses group them, and a sign behind a part
    repeats it. The open groups are kept on a pile, so that each character is met once. -/

namespace Courier.Pattern

/-- Branches side by side: where the first starts, those that are done, and where the last starts with
    its parts so far; the last ones first. -/
structure Branches where
  first : Place
  done : List Tree
  start : Place
  parts : List Tree

namespace Branches

/-- No branches yet. -/
def fresh (p : Place) : Branches := ⟨p, [], p, []⟩

/-- Adds a part to the last branch. -/
def add (b : Branches) (t : Tree) : Branches := { b with parts := t :: b.parts }

/-- The last branch, which ends at a place. -/
def last (b : Branches) (stop : Place) : Tree := match b.parts with
  | [] => .empty ⟨b.start, stop⟩
  | [t] => t
  | ts => .concat ⟨b.start, stop⟩ ts.reverse

/-- All branches, which end at a place. -/
def joined (b : Branches) (stop : Place) : Tree := match b.done with
  | [] => b.last stop
  | ts => .alternation ⟨b.first, stop⟩ (ts.reverse ++ [b.last stop])

/-- Starts another branch behind a bar. -/
def branch (b : Branches) (stop next : Place) : Branches := ⟨b.first, b.last stop :: b.done, next, []⟩

end Branches

/-- An open group: its parenthesis, whether what it holds is kept, its flags, whether patterns are written
    with spaces around it, and the branches that it stands in. -/
structure OpenGroup where
  span : Span
  keeps : Bool
  changes : FlagChanges
  spaced : Bool
  around : Branches

/-- A pattern that is being read: the innermost branches, the groups that are open around them, and the
    names of groups so far. -/
structure Reader where
  inner : Branches
  opened : List OpenGroup
  names : List (List Char × Span)
  cursor : Cursor

namespace Reader

/-- Adds a part that ends where a cursor is. -/
def add (r : Reader) (t : Tree) (c : Cursor) : Reader := { r with inner := r.inner.add t, cursor := c }

/-- The part that a sign repeats, and the branches without it. -/
def repeated (r : Reader) : Except Fault (Tree × Branches) := match r.inner.parts with
  | [] => .error (Cause.nothingRepeated.at r.cursor.here)
  | .flags _ _ :: _ => .error (Cause.nothingRepeated.at r.cursor.here)
  | t :: ts => .ok (t, { r.inner with parts := ts })

/-- Repeats a part; `c` is behind the sign. -/
def repeats (r : Reader) (b : Branches) (t : Tree) (least : Nat) (most : Option Nat) (c : Cursor) :
    Reader :=
  { r with inner := b.add (.repetition ⟨t.span.start, c.place⟩ least most t), cursor := c }

/-- The cursor behind a question mark, if one is next. -/
def behindMark (c : Cursor) : Cursor := if c.isAt '?' then c.bump else c

/-- Takes a sign that repeats without a count. -/
def takeSign (r : Reader) (least : Nat) (most : Option Nat) : Except Fault Reader := do
  let (t, b) ← r.repeated
  return r.repeats b t least most (behindMark r.cursor.bump)

/-- A number, if there are digits and they make one of 32 bits. -/
def readCount (c : Cursor) : Except Fault Nat × Cursor :=
  let start := c.behindBlanks
  let (digits, stop) := start.takeAll Char.isDigit
  let value := Text.numberOf 10 (digits.map fun d => d.toNat - 48)
  let count :=
    if digits.isEmpty then .error (Cause.emptyCount.at (stop.since start.place))
    else if value < 4294967296 then .ok value
    else .error (Cause.invalidDecimal.at (stop.since start.place))
  (count, (stop.takeAll Text.isBlank).2)

/-- The bounds of a count, up to the brace that closes it; `start` is where it was opened. -/
def readBounds (start : Place) (c : Cursor) : Except Fault ((Nat × Option Nat) × Cursor) := do
  let (low, c) := readCount c
  if c.atEnd then .error (Cause.openCount.at (c.since start))
  if c.isAt ',' then
    let c := c.next
    if c.atEnd then .error (Cause.openCount.at (c.since start))
    if c.isAt '\x7d' then return ((← low, none), c)
    else
      let low ← low
      let (high, c) := readCount c
      return ((low, some (← high)), c)
  else
    let low ← low
    return ((low, some low), c)

/-- Takes a count in braces. -/
def takeCount (r : Reader) : Except Fault Reader := do
  let start := r.cursor.place
  let (t, b) ← r.repeated
  let c := r.cursor.next
  if c.atEnd then .error (Cause.openCount.at (c.since start))
  let ((least, most), c) ← readBounds start c
  if !c.isAt '\x7d' then .error (Cause.openCount.at (c.since start))
  let c := behindMark c.next
  if most.any (· < least) then .error (Cause.descendingCount.at (c.since start))
  return r.repeats b t least most c

/-- Opens a group, or takes flags. -/
def takeOpening (r : Reader) : Except Fault Reader := do
  let (opening, c) ← readParenthesis r.cursor
  match opening with
  | .flags span changes =>
    return r.add (.flags span changes) { c with spaced := (changes.of? .spaced).getD c.spaced }
  | .group span keeps changes name =>
    if let some (name, piece) := name then
      if let some old := r.names.lookup name then .error ⟨.repeatedName, piece, some old⟩
    return {
      inner := .fresh c.place
      opened := ⟨span, keeps, changes, c.spaced, r.inner⟩ :: r.opened
      names := name.toList ++ r.names
      cursor := { c with spaced := (changes.of? .spaced).getD c.spaced } }

/-- Closes the innermost group. -/
def takeClosing (r : Reader) : Except Fault Reader := match r.opened with
  | [] => .error (Cause.unopenedGroup.at r.cursor.char)
  | g :: gs =>
    let c := { r.cursor.bump with spaced := g.spaced }
    let sub := r.inner.joined r.cursor.place
    .ok { r with
      inner := g.around.add (.group ⟨g.span.start, c.place⟩ g.keeps g.changes sub)
      opened := gs
      cursor := c }

/-- Takes a bar between branches. -/
def takeBar (r : Reader) : Reader :=
  { r with inner := r.inner.branch r.cursor.place r.cursor.bump.place, cursor := r.cursor.bump }

/-- Takes what starts with a character. -/
def takePart (r : Reader) (ch : Char) : Except Fault Reader :=
  let c := r.cursor
  match ch with
  | '(' => r.takeOpening
  | ')' => r.takeClosing
  | '|' => .ok r.takeBar
  | '[' => do
    let (cls, rest) ← readBracket c
    return r.add (.ofClass cls) rest
  | '?' => r.takeSign 0 (some 1)
  | '*' => r.takeSign 0 none
  | '+' => r.takeSign 1 none
  | '\x7b' => r.takeCount
  | '\\' => do
    let (t, rest) ← readEscape c
    return r.add t rest
  | '.' => .ok (r.add (.dot c.char) c.bump)
  | '^' => .ok (r.add (.edge c.char .lineStart) c.bump)
  | '$' => .ok (r.add (.edge c.char .lineStop) c.bump)
  | ch => .ok (r.add (.literal ⟨c.char, ch, false⟩) c.bump)

/-- The pattern at the end of the text. -/
def finish (r : Reader) : Except Fault Tree := match r.opened with
  | g :: _ => .error (Cause.openGroup.at g.span)
  | [] =>
    let t := r.inner.joined r.cursor.place
    match t.tooDeep deepest with
    | some span => .error ((Cause.tooDeep deepest).at span)
    | none => .ok t

/-- Takes parts, no more than so many. -/
def run : Nat → Reader → Except Fault Tree
  | 0, r => r.finish
  | steps + 1, r =>
    let c := r.cursor.skip
    match c.peek with
    | none => { r with cursor := c }.finish
    | some ch => do
      let r ← { r with cursor := c }.takePart ch
      run steps r

end Reader

/-- The pattern that a text writes. -/
def Tree.ofText (text : List Char) : Except Fault Tree :=
  (Reader.mk (.fresh .first) [] [] (.start text)).run (text.length + 1)

end Courier.Pattern
