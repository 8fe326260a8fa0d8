/-! Reading a text piece by piece.

    A piece takes what it needs from the front of a text; where what it needs is not there, nothing is
    taken and another piece may be tried. -/

namespace Courier.Text

/-- What follows `start` in a text that begins with it. -/
def behind : List Char → List Char → Option (List Char)
  | [], cs => some cs
  | s :: start, c :: cs => if s == c then behind start cs else none
  | _ :: _, [] => none

/-- The value of a hexadecimal digit. -/
def hexDigit? (c : Char) : Option Nat :=
  if c.isDigit then some (c.toNat - 48)
  else if 'a' ≤ c && c ≤ 'f' then some (c.toNat - 87)
  else if 'A' ≤ c && c ≤ 'F' then some (c.toNat - 55)
  else none

/-- The number that digits stand for. -/
def numberOf (base : Nat) (digits : List Nat) : Nat := digits.foldl (fun n d => n * base + d) 0

/-- The character at a code point, if there is one. -/
def charAt? (n : Nat) : Option Char := if n.isValidChar then some (Char.ofNat n) else none

/-- The character at the code point that hexadecimal digits stand for. -/
def charOfHex? (digits : List Char) : Option Char := do
  let ds ← digits.mapM hexDigit?
  charAt? (numberOf 16 ds)

/-- Reading a piece: what it stands for and the text behind it, if it is there. -/
abbrev Piece (α : Type) := StateT (List Char) Option α

namespace Piece

/-- The next character, left where it is. -/
def peek : Piece (Option Char) := fun cs => some (cs.head?, cs)

/-- One character that satisfies a test. -/
def one (test : Char → Bool) : Piece Char := fun
  | c :: cs => if test c then some (c, cs) else none
  | [] => none

/-- A given text. -/
def exactly (text : String) : Piece Unit := fun cs => (behind text.toList cs).map fun rest => ((), rest)

/-- The longest run of characters that satisfy a test. -/
def run (test : Char → Bool) : Piece (List Char) := fun cs => some (cs.takeWhile test, cs.dropWhile test)

/-- So many characters that satisfy a test. -/
def times (count : Nat) (test : Char → Bool) : Piece (List Char) := fun cs =>
  let part := cs.take count
  if part.length == count && part.all test then some (part, cs.drop count) else none

/-- A piece that may be missing. -/
def optional {α : Type} (p : Piece α) : Piece (Option α) := fun cs => match p cs with
  | some (a, rest) => some (some a, rest)
  | none => some (none, cs)

end Piece
end Courier.Text
