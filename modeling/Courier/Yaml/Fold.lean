import Courier.Yaml.Text

/-! Scalars over several lines.

    One end of a line is read as a blank, several as one less; blanks around them are dropped. White
    space counts only when text follows it. -/

namespace Courier.Yaml

/-- A scalar being read, all lists last character first: its text so far, blanks behind it, whether the
    line ended since, the first end of a line, and further ones. -/
structure Fold where
  out : List Char
  blanks : List Char
  broken : Bool
  first : Option Char
  more : List Char

namespace Fold

/-- Nothing read yet. -/
def empty : Fold := ⟨[], [], false, none, []⟩

/-- Takes a blank. -/
def addBlank (f : Fold) (c : Char) : Fold := if f.broken then f else { f with blanks := c :: f.blanks }

/-- Takes the end of a line. -/
def addBreak (f : Fold) (c : Char) : Fold :=
  if f.broken then { f with more := c :: f.more }
  else { f with blanks := [], broken := true, first := some c }

/-- The text so far, with the white space behind it. -/
def joined (f : Fold) : List Char :=
  if !f.broken then f.blanks ++ f.out
  else match f.first with
    | some '\n' => if f.more.isEmpty then ' ' :: f.out else f.more ++ f.out
    | some b => f.more ++ b :: f.out
    | none => f.more ++ f.out

/-- Makes the white space part of the text. -/
def join (f : Fold) : Fold := ⟨f.joined, [], false, none, []⟩

/-- Takes a character of the text. -/
def push (f : Fold) (c : Char) : Fold := { f with out := c :: f.out }

/-- An end of a line that is no text. -/
def hideBreak (f : Fold) : Fold := { f with broken := true }

/-- The text. -/
def text (f : Fold) : String := String.ofList f.out.reverse

end Fold

/-- Marks of lists and tables on one line. -/
def isFlowMark (c : Char) : Bool := c == ',' || c == '[' || c == ']' || c == '\x7b' || c == '\x7d'

/-- A plain scalar as read: its text, whether it is followed by the end of a line, and what is left. -/
structure PlainScalar where
  text : String
  broken : Bool
  after : Cursor

/-- Reads a plain scalar. It ends before a comment, a mark, a key's colon, or a line that is less
    indented; `fresh` tells that white space stands before the next character. -/
def plain (inFlow : Bool) (indent : Nat) : Bool → Fold → Place → List Char → Option PlainScalar
  | _, f, p, [] => some ⟨f.text, f.broken, ⟨[], p⟩⟩
  | fresh, f, p, c :: cs =>
    if isBlank c then
      if f.broken && p.column < indent && c == '\t' then none
      else plain inFlow indent true (f.addBlank c) (p.next c) cs
    else if isBreak c then plain inFlow indent true (f.addBreak c) p.newLine cs
    else if fresh && ((!inFlow && p.column < indent) || p.atMark (c :: cs) || c == '#') then
      some ⟨f.text, f.broken, ⟨c :: cs, p⟩⟩
    else if inFlow && c == ':' && (match cs with
      | d :: _ => isFlowMark d || d == '?'
      | [] => false) then none
    else if (c == ':' && spaceNext cs) || (inFlow && isFlowMark c) then
      some ⟨f.text, f.broken, ⟨c :: cs, p⟩⟩
    else plain inFlow indent false (f.join.push c) (p.next c) cs

/-- The character that an escape of one letter stands for. -/
def escape? (c : Char) : Option Char :=
  if c == '0' then some '\x00'
  else if c == 'a' then some '\x07'
  else if c == 'b' then some '\x08'
  else if c == 't' || c == '\t' then some '\t'
  else if c == 'n' then some '\n'
  else if c == 'v' then some '\x0b'
  else if c == 'f' then some '\x0c'
  else if c == 'r' then some '\r'
  else if c == 'e' then some '\x1b'
  else if c == ' ' || c == '"' || c == '/' || c == '\\' then some c
  else if c == 'N' then some '\u0085'
  else if c == '_' then some '\u00a0'
  else if c == 'L' then some '\u2028'
  else if c == 'P' then some '\u2029'
  else none

/-- Reads a scalar between quotation marks, behind the first one. -/
def doubleQuoted : Bool → Fold → Place → List Char → Option (String × Cursor)
  | _, _, _, [] => none
  | fresh, f, p, c :: cs =>
    if isBlank c then doubleQuoted true (f.addBlank c) (p.next c) cs
    else if isBreak c then doubleQuoted true (f.addBreak c) p.newLine cs
    else if fresh && p.atMark (c :: cs) then none
    else
      let f := f.join
      if c == '"' then some (f.text, ⟨cs, p.next c⟩)
      else if c != '\\' then doubleQuoted false (f.push c) (p.next c) cs
      else match cs with
        | 'x' :: a :: b :: cs => match Text.charOfHex? [a, b] with
          | some x => doubleQuoted false (f.push x) ((p.next c).behind ['x', a, b]) cs
          | none => none
        | 'u' :: a :: b :: d :: e :: cs => match Text.charOfHex? [a, b, d, e] with
          | some x => doubleQuoted false (f.push x) ((p.next c).behind ['u', a, b, d, e]) cs
          | none => none
        | 'U' :: a :: b :: d :: e :: g :: h :: i :: j :: cs =>
          match Text.charOfHex? [a, b, d, e, g, h, i, j] with
          | some x => doubleQuoted false (f.push x) ((p.next c).behind ['U', a, b, d, e, g, h, i, j]) cs
          | none => none
        | e :: cs =>
          if isBreak e then doubleQuoted true f.hideBreak p.newLine cs
          else match escape? e with
            | some x => doubleQuoted false (f.push x) ((p.next c).next e) cs
            | none => none
        | [] => none

/-- Reads a scalar between single quotation marks, behind the first one; two of them stand for one. -/
def singleQuoted : Bool → Fold → Place → List Char → Option (String × Cursor)
  | _, _, _, [] => none
  | fresh, f, p, c :: cs =>
    if isBlank c then singleQuoted true (f.addBlank c) (p.next c) cs
    else if isBreak c then singleQuoted true (f.addBreak c) p.newLine cs
    else if fresh && p.atMark (c :: cs) then none
    else
      let f := f.join
      if c != '\x27' then singleQuoted false (f.push c) (p.next c) cs
      else match cs with
        | '\x27' :: cs => singleQuoted false (f.push '\x27') ((p.next c).next c) cs
        | cs => some (f.text, ⟨cs, p.next c⟩)

end Courier.Yaml
