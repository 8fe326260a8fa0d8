import Courier.Json.Node
import Courier.Text.Utf8

/-! Moving through a JSON text, byte by byte. -/

namespace Courier.Json

/-- What is left of a text, and the place where it starts. -/
structure Cursor where
  spot : Spot
  rest : Bytes

/-- What was read at a cursor: the value, what skipping it meets, and where to go on. -/
structure Scan (α : Type) where
  value : Except Fault α
  skip : Option Fault
  after : Cursor

/-- The place behind one more byte. -/
def Spot.next (s : Spot) (b : UInt8) : Spot :=
  if b == 10 then ⟨s.line + 1, 0⟩ else ⟨s.line, s.column + 1⟩

/-- The place behind some more bytes. -/
def Spot.advance (s : Spot) (bs : Bytes) : Spot := bs.foldl Spot.next s

namespace Cursor

/-- The start of a text. -/
def start (text : Bytes) : Cursor := ⟨⟨1, 0⟩, text⟩

/-- The place behind the next byte, if there is one. -/
def peek (c : Cursor) : Spot := match c.rest with
  | [] => c.spot
  | b :: _ => c.spot.next b

/-- A fault at the cursor. -/
def fault (c : Cursor) (cause : Cause) : Fault := ⟨cause, some c.spot⟩

/-- A fault at the next byte. -/
def peekFault (c : Cursor) (cause : Cause) : Fault := ⟨cause, some c.peek⟩

end Cursor

/-- Blanks between the parts of a text. -/
def isBlank (b : UInt8) : Bool := b == 32 || b == 10 || b == 9 || b == 13

/-- Passes blanks. -/
def passBlanks (s : Spot) : Bytes → Cursor
  | [] => ⟨s, []⟩
  | b :: rest => if isBlank b then passBlanks (s.next b) rest else ⟨s, b :: rest⟩

/-- Passes blanks. -/
def Cursor.blanks (c : Cursor) : Cursor := passBlanks c.spot c.rest

/-- A scan that cannot go on: reading and skipping meet the same fault. -/
def Scan.stop {α : Type} (fault : Fault) (after : Cursor) : Scan α := ⟨.error fault, some fault, after⟩

/-- Reads the rest of a word. -/
def word {α : Type} (value : α) (s : Spot) : Bytes → Bytes → Scan α
  | [], rest => ⟨.ok value, none, ⟨s, rest⟩⟩
  | _ :: _, [] => .stop ⟨.endInValue, some s⟩ ⟨s, []⟩
  | w :: ws, b :: rest =>
    if b == w then word value (s.next b) ws rest
    else .stop ⟨.expectedIdentifier, some (s.next b)⟩ ⟨s.next b, rest⟩

end Courier.Json
