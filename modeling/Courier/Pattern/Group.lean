import Courier.Pattern.Cursor
import Courier.Pattern.Tree

/-! What an opening parenthesis opens.

    A group may have a name, or flags of its own. Flags in parentheses of their own hold from there to
    the end of the group that they stand in. -/

namespace Courier.Pattern

/-- A sign between flags: a flag, or none for the sign that clears those that follow. -/
structure FlagSign where
  span : Span
  flag : Option Flag

/-- The flag that a letter stands for. -/
def flagOf? : Char → Option Flag
  | 'i' => some .caseless
  | 'm' => some .manyLines
  | 's' => some .dotAll
  | 'U' => some .swapped
  | 'u' => some .unicode
  | 'R' => some .returns
  | 'x' => some .spaced
  | _ => none

/-- What signs change, the last one first. -/
def changesOf (signs : List FlagSign) : FlagChanges :=
  let isClearing := (signs.reverse.findIdx? fun s => s.flag.isNone).getD signs.length
  (signs.reverse.zipIdx).filterMap fun s => s.1.flag.map fun f => (f, decide (s.2 < isClearing))

/-- The fault of a sign that is there already. -/
def FlagSign.repeated (s old : FlagSign) : Fault :=
  ⟨if s.flag.isNone then .repeatedNegation else .repeatedFlag, s.span, some old.span⟩

/-- The sign here. -/
def readSign (ch : Char) (c : Cursor) : Except Fault FlagSign :=
  if ch == '-' then .ok ⟨c.char, none⟩
  else match flagOf? ch with
    | some f => .ok ⟨c.char, some f⟩
    | none => .error (Cause.unknownFlag.at c.char)

/-- Flags up to the sign that ends them, given those before, the last one first. -/
def readFlags : Nat → List FlagSign → Cursor → Except Fault (FlagChanges × Cursor)
  | 0, _, c => .error (Cause.flagEnd.at c.here)
  | steps + 1, signs, c => match c.peek with
    | none => .error (Cause.flagEnd.at c.here)
    | some ch => do
      if ch == ':' || ch == ')' then
        if let some ⟨span, none⟩ := signs.head? then .error (Cause.danglingNegation.at span)
        return (changesOf signs, c)
      let sign ← readSign ch c
      if let some old := signs.find? fun s => s.flag == sign.flag then .error (sign.repeated old)
      if c.bump.atEnd then .error (Cause.flagEnd.at c.bump.here)
      readFlags steps (sign :: signs) c.bump

/-- Whether a name may go on with a character; it starts with a letter or an underscore. -/
def isNameChar (isFirst : Bool) (c : Char) : Bool :=
  c == '_' || Text.isAlphabetic c ||
    (!isFirst && (['.', '[', ']'].contains c || Text.isNumeric c))

/-- How many of the characters make a name. -/
def nameLength : List Char → Nat
  | [] => 0
  | c :: cs => if isNameChar true c then 1 + (cs.takeWhile (isNameChar false)).length else 0

/-- A name up to the sign that ends it, and its piece. -/
def readName (c : Cursor) : Except Fault ((List Char × Span) × Cursor) := do
  let length := nameLength c.rest
  let stop := c.pass length
  match stop.peek with
  | none => .error (Cause.nameEnd.at stop.here)
  | some ch =>
    if ch != '>' then .error (Cause.invalidName.at stop.char)
    if length == 0 then .error (Cause.emptyName.at c.here)
    return ((c.rest.take length, stop.since c.place), stop.bump)

/-- What a parenthesis opens: flags, or a group with its piece, whether what it holds is kept, its flags
    and its name. -/
inductive Opening where
  | flags (span : Span) (changes : FlagChanges)
  | group (span : Span) (keeps : Bool) (changes : FlagChanges) (name : Option (List Char × Span))

/-- Whether a condition on the text around is next, and where it ends. -/
def lookAround? (c : Cursor) : Option Cursor :=
  (["?=", "?!", "?<=", "?<!"].map String.toList).findSome? c.behind?

/-- What stands between a question mark and the sign that ends it. -/
def readFlagged (span question : Span) (c : Cursor) : Except Fault (Opening × Cursor) := do
  if c.atEnd then .error (Cause.openGroup.at span)
  let (changes, stop) ← readFlags (c.rest.length + 1) [] c
  let rest := stop.bump
  if stop.isAt ':' then return (.group span false changes none, rest)
  else if stop.place == c.place then .error (Cause.nothingRepeated.at question)
  else return (.flags (rest.since span.start) changes, rest)

/-- What a parenthesis opens; the cursor is at the parenthesis. -/
def readParenthesis (c : Cursor) : Except Fault (Opening × Cursor) := do
  let span := c.char
  let inner := c.next
  if let some stop := lookAround? inner then .error (Cause.lookAround.at (stop.since span.start))
  match (inner.behind? ['?', 'P', '<']).or (inner.behind? ['?', '<']) with
  | some start =>
    let (name, rest) ← readName start
    return (.group span true [] (some name), rest)
  | none => match inner.behind? ['?'] with
    | some start => readFlagged span inner.here start
    | none => return (.group span true [] none, inner)

end Courier.Pattern
