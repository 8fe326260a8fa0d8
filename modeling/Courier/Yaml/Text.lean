import Courier.Text.Piece

/-! The characters of YAML and places in its texts.

    Before anything else a text is settled: characters that may not stand in it are refused, and all
    ends of lines but the two Unicode separators become line feeds. -/

namespace Courier.Yaml

/-- Whether a character may stand in a text. -/
def isAllowed (c : Char) : Bool :=
  let n := c.toNat
  n == 9 || n == 10 || n == 13 || (32 ≤ n && n ≤ 126) || n == 0x85 || (0xA0 ≤ n && n ≤ 0xFFFD)
    || 0x10000 ≤ n

/-- A text whose lines all end in line feeds. -/
def settleEnds : List Char → List Char
  | '\r' :: '\n' :: cs => '\n' :: settleEnds cs
  | '\r' :: cs => '\n' :: settleEnds cs
  | '\u0085' :: cs => '\n' :: settleEnds cs
  | c :: cs => c :: settleEnds cs
  | [] => []

/-- The end of a line. -/
def isBreak (c : Char) : Bool := c == '\n' || c == '\u2028' || c == '\u2029'

/-- White space within a line. -/
def isBlank (c : Char) : Bool := c == ' ' || c == '\t'

/-- A character of a name. -/
def isNameChar (c : Char) : Bool := c.isAlphanum || c == '_' || c == '-'

/-- Whether white space, the end of a line or the end of the text comes next. -/
def spaceNext : List Char → Bool
  | [] => true
  | c :: _ => isBlank c || isBreak c

/-- Whether the end of a line or of the text comes next. -/
def endNext : List Char → Bool
  | [] => true
  | c :: _ => isBreak c

/-- Whether a line begins with the mark of a document's start. -/
def startsDocument : List Char → Bool
  | '-' :: '-' :: '-' :: cs => spaceNext cs
  | _ => false

/-- Whether a line begins with the mark of a document's end. -/
def endsDocument : List Char → Bool
  | '.' :: '.' :: '.' :: cs => spaceNext cs
  | _ => false

/-- A place in a text: its line, and the characters and octets of the line before it; all numbers start
    at 0. -/
structure Place where
  line : Nat
  column : Nat
  octets : Nat
deriving DecidableEq, Repr

/-- The place behind a character of the line. -/
def Place.next (p : Place) (c : Char) : Place := ⟨p.line, p.column + 1, p.octets + c.utf8Size⟩

/-- The place behind characters of the line. -/
def Place.behind (p : Place) (cs : List Char) : Place := cs.foldl .next p

/-- The place behind the end of a line. -/
def Place.newLine (p : Place) : Place := ⟨p.line + 1, 0, 0⟩

/-- Whether a mark of a document stands at a place. -/
def Place.atMark (p : Place) (cs : List Char) : Bool :=
  p.column == 0 && (startsDocument cs || endsDocument cs)

/-- The rest of a text and its place. -/
structure Cursor where
  rest : List Char
  place : Place

namespace Cursor

/-- The cursor so many characters further in the line. -/
def skip (c : Cursor) (n : Nat) : Cursor := ⟨c.rest.drop n, c.place.behind (c.rest.take n)⟩

/-- Passes the characters of the line that satisfy a test. -/
def skipWhile (test : Char → Bool) (c : Cursor) : Cursor := c.skip (c.rest.takeWhile test).length

/-- Passes the end of a line, if it is next. -/
def skipBreak (c : Cursor) : Cursor := match c.rest with
  | b :: cs => if isBreak b then ⟨cs, c.place.newLine⟩ else c
  | [] => c

/-- Passes what may follow on a line: white space and a comment. -/
def skipComment (c : Cursor) : Cursor :=
  let c := c.skipWhile isBlank
  match c.rest with
  | '#' :: _ => c.skipWhile fun x => !isBreak x
  | _ => c

end Cursor
end Courier.Yaml
