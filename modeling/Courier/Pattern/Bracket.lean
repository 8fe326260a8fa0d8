import Courier.Pattern.Escape

/-! Classes of characters in brackets.

    Parts stand side by side; two signs combine all that stands before them with what follows, from left
    to right. Brackets may nest. Directly behind the opening bracket a closing one and any dashes stand
    for themselves. -/

namespace Courier.Pattern

/-- Parts of a class side by side, the last one first. -/
structure Parts where
  span : Span
  items : List CharClass

/-- No parts yet. -/
def Parts.at (p : Place) : Parts := ⟨.at p, []⟩

/-- Adds a part. -/
def Parts.add (p : Parts) (c : CharClass) : Parts :=
  ⟨⟨if p.items.isEmpty then c.span.start else p.span.start, c.span.stop⟩, c :: p.items⟩

/-- The parts as one class. -/
def Parts.joined (p : Parts) : CharClass := match p.items with
  | [] => .empty p.span
  | [c] => c
  | cs => .union p.span cs.reverse

/-- An open bracket: its piece, what its parts are to be combined with, and its parts so far. -/
structure Level where
  span : Span
  negated : Bool
  pending : Option (ClassOp × CharClass)
  parts : Parts

namespace Level

/-- Adds a part. -/
def add (l : Level) (c : CharClass) : Level := { l with parts := l.parts.add c }

/-- All so far as one class. -/
def joined (l : Level) : CharClass :=
  let right := l.parts.joined
  match l.pending with
  | none => right
  | some (op, left) => .operation ⟨left.span.start, right.span.stop⟩ op left right

/-- The bracket closed at a place. -/
def closed (l : Level) (stop : Place) : CharClass := .bracketed ⟨l.span.start, stop⟩ l.negated l.joined

/-- The bracket with all so far before an operation, whose other side starts at a place. -/
def combined (l : Level) (op : ClassOp) (start : Place) : Level :=
  { l with pending := some (op, l.joined), parts := .at start }

/-- The fault of a bracket that is never closed. -/
def fault (l : Level) : Fault := Cause.openClass.at l.span

end Level

/-- The dashes that a bracket opens with; `start` is where the bracket is. -/
def readDashes (start : Place) : Nat → Parts → Cursor → Except Fault (Parts × Cursor)
  | 0, parts, c => .ok (parts, c)
  | most + 1, parts, c =>
    if c.isAt '-' then
      if c.next.atEnd then .error (Cause.openClass.at (.at start))
      else readDashes start most (parts.add (.literal ⟨c.char, '-', false⟩)) c.next
    else .ok (parts, c)

/-- An opening bracket and what directly follows it. -/
def readOpening (c : Cursor) : Except Fault (Level × Cursor) := do
  let start := c.place
  let c := c.next
  if c.atEnd then .error (Cause.openClass.at (c.since start))
  let negated := c.isAt '^'
  let c := if negated then c.next else c
  if c.atEnd then .error (Cause.openClass.at (c.since start))
  let (parts, c) ← readDashes start c.rest.length (.at c.place) c
  if parts.items.isEmpty && c.isAt ']' then
    let parts := parts.add (.literal ⟨c.char, ']', false⟩)
    if c.next.atEnd then .error (Cause.openClass.at (c.next.since start))
    return (⟨c.next.since start, negated, none, parts⟩, c.next)
  else return (⟨c.since start, negated, none, parts⟩, c)

/-- The classes that go by a name between colons. -/
def namedOf? (name : String) : Option Named :=
  [("alnum", .alnum), ("alpha", .alpha), ("ascii", .ascii), ("blank", .blank), ("cntrl", .cntrl),
    ("digit", .digit), ("graph", .graph), ("lower", .lower), ("print", .print), ("punct", .punct),
    ("space", .space), ("upper", .upper), ("word", .word), ("xdigit", .xdigit)].lookup name

/-- A class that goes by a name, if there is one here. -/
def namedClass? (c : Cursor) : Option (CharClass × Cursor) := do
  let inner ← c.behind? ['[', ':']
  let negated := inner.isAt '^'
  let inner := if negated then inner.bump else inner
  let name := inner.rest.takeWhile (· != ':')
  let rest ← (inner.pass name.length).behind? [':', ']']
  let kind ← namedOf? (String.ofList name)
  return (.named (rest.since c.place) negated kind, rest)

/-- An operation between classes, if there is one here. -/
def classOp? (c : Cursor) : Option (ClassOp × Cursor) :=
  ((c.behind? ['&', '&']).map ((.intersection, ·))).or
    (((c.behind? ['-', '-']).map ((.difference, ·))).or
      ((c.behind? ['~', '~']).map ((.symmetricDifference, ·))))

/-- A character or an escape between brackets. -/
def readItem (c : Cursor) : Except Fault (Tree × Cursor) := match c.peek with
  | some '\\' => readEscape c
  | some ch => .ok (.literal ⟨c.char, ch, false⟩, c.bump)
  | none => .error (Cause.openClass.at c.here)

/-- The class of a single item. -/
def classOf : Tree → Except Fault CharClass
  | .literal l => .ok (.literal l)
  | .ofClass c => .ok c
  | t => .error (Cause.classEscape.at t.span)

/-- The end of a range. -/
def rangeEnd : Tree → Except Fault Literal
  | .literal l => .ok l
  | t => .error (Cause.rangeEnd.at t.span)

/-- The character behind a dash, where blanks and the sign of a remark are passed. -/
def behindDash (c : Cursor) : Option Char :=
  if c.spaced then
    let blanks := c.bump.rest.dropWhile Text.isBlank
    match blanks with
    | '#' :: rest => (rest.dropWhile Text.isBlank).head?
    | rest => rest.head?
  else c.bump.peek

/-- An item, or a range between two; `inside` is the bracket that they are in. -/
def readRange (inside : Level) (c : Cursor) : Except Fault (CharClass × Cursor) := do
  let (first, c) ← readItem c
  let c := c.skip
  if c.atEnd then .error inside.fault
  let behind := behindDash c
  if !c.isAt '-' || behind == some ']' || behind == some '-' then return (← classOf first, c)
  let c := c.next
  if c.atEnd then .error inside.fault
  let (last, c) ← readItem c
  let span : Span := ⟨first.span.start, last.span.stop⟩
  let low ← rangeEnd first
  let high ← rangeEnd last
  if low.char ≤ high.char then return (.range span low high, c)
  else .error (Cause.descendingRange.at span)

/-- The rest of a class in brackets, given the brackets that are open. -/
def readLevels : Nat → Level → List Level → Cursor → Except Fault (CharClass × Cursor)
  | 0, inner, _, _ => .error inner.fault
  | steps + 1, inner, outer, c => do
    let c := c.skip
    match c.peek with
    | none => .error inner.fault
    | some '[' => match namedClass? c with
      | some (named, rest) => readLevels steps (inner.add named) outer rest
      | none =>
        let (level, rest) ← readOpening c
        readLevels steps level (inner :: outer) rest
    | some ']' =>
      let closed := inner.closed c.bump.place
      match outer with
      | [] => return (closed, c.bump)
      | level :: levels => readLevels steps (level.add closed) levels c.bump
    | some _ => match classOp? c with
      | some (op, rest) => readLevels steps (inner.combined op rest.place) outer rest
      | none =>
        let (part, rest) ← readRange inner c
        readLevels steps (inner.add part) outer rest

/-- A class in brackets; the cursor is at the opening one. -/
def readBracket (c : Cursor) : Except Fault (CharClass × Cursor) := do
  let (level, rest) ← readOpening c
  readLevels (rest.rest.length + 1) level [] rest

end Courier.Pattern
