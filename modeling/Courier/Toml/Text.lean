import Courier.Text.Piece

/-! Blanks, strings and keys of TOML. -/

namespace Courier.Toml

open Courier.Text (Piece)

/-- A blank within a line. -/
def isBlank (c : Char) : Bool := c == ' ' || c == '\t'

/-- A character that may stand in a comment or a string: no control but the tab. -/
def isPlain (c : Char) : Bool := c == '\t' || (32 ≤ c.toNat && c.toNat != 127)

/-- Passes the blanks of a line. -/
def blanks : Piece Unit := do
  let _ ← Piece.run isBlank

/-- The end of a line or of the text. -/
def lineEnd : Piece Unit := fun
  | [] => some ((), [])
  | '\n' :: cs => some ((), cs)
  | '\r' :: '\n' :: cs => some ((), cs)
  | _ => none

/-- What may follow on a line: a comment. -/
def restOfLine : Piece Unit := do
  blanks
  match ← Piece.peek with
  | some '#' =>
    let _ ← Piece.run isPlain
    lineEnd
  | _ => lineEnd

/-- Passes blanks, ends of lines and comments between the items of a list. -/
def passGap : Bool → List Char → Option (List Char)
  | _, [] => some []
  | _, '\n' :: cs => passGap false cs
  | _, '\r' :: '\n' :: cs => passGap false cs
  | true, c :: cs => if isPlain c then passGap true cs else none
  | false, c :: cs =>
    if isBlank c then passGap false cs
    else if c == '#' then passGap true cs
    else some (c :: cs)

/-- Passes blanks, ends of lines and comments. -/
def gap : Piece Unit := fun cs => (passGap false cs).map fun rest => ((), rest)

/-- The character that an escape of one letter stands for. -/
def escape? (c : Char) : Option Char :=
  if c == 'b' then some '\x08'
  else if c == 't' then some '\t'
  else if c == 'n' then some '\n'
  else if c == 'f' then some '\x0c'
  else if c == 'r' then some '\r'
  else if c == '"' then some '"'
  else if c == '\\' then some '\\'
  else none

/-- Reads a string behind its quotation mark; `out` holds its characters so far, the last one first. -/
def basic (out : List Char) : List Char → Option (String × List Char)
  | '"' :: cs => some (String.ofList out.reverse, cs)
  | '\\' :: 'u' :: a :: b :: c :: d :: cs => match Text.charOfHex? [a, b, c, d] with
    | some x => basic (x :: out) cs
    | none => none
  | '\\' :: 'U' :: a :: b :: c :: d :: e :: f :: g :: h :: cs =>
    match Text.charOfHex? [a, b, c, d, e, f, g, h] with
    | some x => basic (x :: out) cs
    | none => none
  | '\\' :: c :: cs => match escape? c with
    | some x => basic (x :: out) cs
    | none => none
  | c :: cs => if isPlain c && c != '\\' then basic (c :: out) cs else none
  | [] => none

/-- Whether only blanks stand before the end of the line. -/
def endsLine (cs : List Char) : Bool := match cs.dropWhile isBlank with
  | '\n' :: _ => true
  | '\r' :: '\n' :: _ => true
  | _ => false

/-- Reads a string over several lines behind its quotation marks. A backslash at the end of a line joins
    the text to the next one; `joining` is set until that text is reached. -/
def multiline (joining : Bool) (out : List Char) : List Char → Option (String × List Char)
  | '"' :: '"' :: '"' :: '"' :: '"' :: cs => some (String.ofList ('"' :: '"' :: out).reverse, cs)
  | '"' :: '"' :: '"' :: '"' :: cs => some (String.ofList ('"' :: out).reverse, cs)
  | '"' :: '"' :: '"' :: cs => some (String.ofList out.reverse, cs)
  | '\r' :: '\n' :: cs => multiline joining (if joining then out else '\n' :: out) cs
  | '\n' :: cs => multiline joining (if joining then out else '\n' :: out) cs
  | '\\' :: 'u' :: a :: b :: c :: d :: cs => match Text.charOfHex? [a, b, c, d] with
    | some x => multiline false (x :: out) cs
    | none => none
  | '\\' :: 'U' :: a :: b :: c :: d :: e :: f :: g :: h :: cs =>
    match Text.charOfHex? [a, b, c, d, e, f, g, h] with
    | some x => multiline false (x :: out) cs
    | none => none
  | '\\' :: c :: cs =>
    if endsLine (c :: cs) then
      if c == '\r' || c == '\n' || isBlank c then multiline true out cs else none
    else match escape? c with
      | some x => multiline false (x :: out) cs
      | none => none
  | c :: cs =>
    if joining && isBlank c then multiline true out cs
    else if isPlain c && c != '\\' then multiline false (c :: out) cs
    else none
  | [] => none

/-- The mark around a string that is taken as it stands. -/
def literalMark : Char := '\x27'

/-- Reads a string that is taken as it stands, behind its mark. -/
def literal (out : List Char) : List Char → Option (String × List Char)
  | [] => none
  | c :: cs =>
    if c == literalMark then some (String.ofList out.reverse, cs)
    else if isPlain c then literal (c :: out) cs
    else none

/-- Reads a string over several lines that is taken as it stands, behind its marks. -/
def literalLines (out : List Char) : List Char → Option (String × List Char)
  | '\x27' :: '\x27' :: '\x27' :: '\x27' :: '\x27' :: cs =>
    some (String.ofList (literalMark :: literalMark :: out).reverse, cs)
  | '\x27' :: '\x27' :: '\x27' :: '\x27' :: cs => some (String.ofList (literalMark :: out).reverse, cs)
  | '\x27' :: '\x27' :: '\x27' :: cs => some (String.ofList out.reverse, cs)
  | '\r' :: '\n' :: cs => literalLines ('\n' :: out) cs
  | c :: cs => if c == '\n' || isPlain c then literalLines (c :: out) cs else none
  | [] => none

/-- Drops the end of the line that follows the opening marks at once. -/
def dropFirstEnd : List Char → List Char
  | '\n' :: cs => cs
  | '\r' :: '\n' :: cs => cs
  | cs => cs

/-- A string on one line. -/
def lineString : Piece String := fun
  | '"' :: cs => basic [] cs
  | '\x27' :: cs => literal [] cs
  | _ => none

/-- A string of any kind. -/
def string : Piece String := fun
  | '"' :: '"' :: '"' :: cs => multiline false [] (dropFirstEnd cs)
  | '\x27' :: '\x27' :: '\x27' :: cs => literalLines [] (dropFirstEnd cs)
  | cs => lineString cs

/-- A character of a key without quotation marks. -/
def isKeyChar (c : Char) : Bool := c.isAlphanum || c == '-' || c == '_'

/-- One step of a key. -/
def simpleKey : Piece String := do
  match ← Piece.peek with
  | some '"' => lineString
  | some '\x27' => lineString
  | _ =>
    let cs ← Piece.run isKeyChar
    if cs.isEmpty then failure else return String.ofList cs

/-- A key of at most so many steps, parted by dots. -/
def keyOf : Nat → Piece (List String)
  | 0 => failure
  | n + 1 => do
    blanks
    let k ← simpleKey
    blanks
    match ← Piece.peek with
    | some '.' =>
      Piece.exactly "."
      let ks ← keyOf n
      return k :: ks
    | _ => return [k]

/-- Keys and values are not nested deeper than this. -/
def maxDepth : Nat := 79

/-- A key. -/
def key : Piece (List String) := keyOf maxDepth

end Courier.Toml
