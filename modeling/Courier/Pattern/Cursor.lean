import Courier.Pattern.Fault
import Courier.Text.Word

/-! Where a pattern is being read.

    Where patterns are written with spaces, blanks and remarks up to the end of the line do not count. -/

namespace Courier.Pattern

/-- The text that is left, where it starts, and whether patterns are written with spaces here. -/
structure Cursor where
  rest : List Char
  place : Place
  spaced : Bool

namespace Cursor

/-- The start of a text. -/
def start (text : List Char) : Cursor := ⟨text, .first, false⟩

/-- Whether nothing is left. -/
def atEnd (c : Cursor) : Bool := c.rest.isEmpty

/-- The next character. -/
def peek (c : Cursor) : Option Char := c.rest.head?

/-- Whether the next character is the given one. -/
def isAt (c : Cursor) (ch : Char) : Bool := c.peek == some ch

/-- The cursor behind the next character. -/
def bump (c : Cursor) : Cursor := match c.rest with
  | [] => c
  | ch :: rest => { c with rest := rest, place := c.place.past ch }

/-- The cursor so many characters further. -/
def pass : Nat → Cursor → Cursor
  | 0, c => c
  | n + 1, c => pass n c.bump

/-- What is left of a text behind blanks and remarks, and where. -/
def behindSpace (inRemark : Bool) : List Char → Place → List Char × Place
  | [], p => ([], p)
  | ch :: rest, p =>
    if inRemark then behindSpace (ch != '\n') rest (p.past ch)
    else if Text.isBlank ch then behindSpace false rest (p.past ch)
    else if ch == '#' then behindSpace true rest (p.past ch)
    else (ch :: rest, p)

/-- The cursor behind what does not count. -/
def skip (c : Cursor) : Cursor :=
  if c.spaced then
    let left := behindSpace false c.rest c.place
    { c with rest := left.1, place := left.2 }
  else c

/-- The next character that counts behind this one. -/
def next (c : Cursor) : Cursor := c.bump.skip

/-- The cursor behind a text, if it is next. -/
def behind? (c : Cursor) (text : List Char) : Option Cursor :=
  if text.isPrefixOf c.rest then some (c.pass text.length) else none

/-- The empty piece here. -/
def here (c : Cursor) : Span := .at c.place

/-- The piece of the next character. -/
def char (c : Cursor) : Span := ⟨c.place, c.bump.place⟩

/-- The piece from a place up to here. -/
def since (c : Cursor) (start : Place) : Span := ⟨start, c.place⟩

/-- Takes up to so many characters that pass a test. -/
def take (test : Char → Bool) : Nat → Cursor → List Char × Cursor
  | 0, c => ([], c)
  | most + 1, c => match c.peek with
    | some ch =>
      if test ch then
        let more := take test most c.next
        (ch :: more.1, more.2)
      else ([], c)
    | none => ([], c)

/-- Takes the characters that pass a test, up to one that does not. -/
def takeAll (test : Char → Bool) (c : Cursor) : List Char × Cursor := c.take test c.rest.length

/-- The cursor behind blanks, wherever they are. -/
def behindBlanks (c : Cursor) : Cursor := c.pass (c.rest.takeWhile Text.isBlank).length

end Cursor
end Courier.Pattern
