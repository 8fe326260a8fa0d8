/-! Places in the text of a pattern. -/

namespace Courier.Pattern

/-- A place between two characters: how many are before it, and its line and column, from one. -/
structure Place where
  offset : Nat
  line : Nat
  column : Nat
deriving DecidableEq, Repr

/-- Where a text starts. -/
def Place.first : Place := ⟨0, 1, 1⟩

/-- The place behind a character. -/
def Place.past (p : Place) (c : Char) : Place :=
  if c == '\n' then ⟨p.offset + 1, p.line + 1, 1⟩ else ⟨p.offset + 1, p.line, p.column + 1⟩

/-- A piece of a text. -/
structure Span where
  start : Place
  stop : Place
deriving DecidableEq, Repr

/-- The empty piece at a place. -/
def Span.at (p : Place) : Span := ⟨p, p⟩

/-- Whether a piece ends in the line where it starts. -/
def Span.isInLine (s : Span) : Bool := s.start.line == s.stop.line

/-- Whether a piece goes before another: it starts earlier, or ends earlier. -/
def Span.before (s t : Span) : Bool :=
  s.start.offset < t.start.offset ||
    (s.start.offset == t.start.offset && s.stop.offset ≤ t.stop.offset)

end Courier.Pattern
