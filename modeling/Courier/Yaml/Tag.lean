import Courier.Text.Utf8
import Courier.Yaml.Text

/-! Tags, anchors and directives. -/

namespace Courier.Yaml

/-- A character of a tag's address, but for the percent sign; in angle brackets there are more. -/
def isTagChar (bracketed : Bool) (c : Char) : Bool :=
  isNameChar c || [';', '/', '?', ':', '@', '&', '=', '+', '$', '.', '!', '~', '*', '\x27', '(', ')'].contains c
    || (bracketed && [',', '[', ']'].contains c)

/-- The number of octets of a character, told by the first one. -/
def octetsOf? (n : Nat) : Option Nat :=
  if n < 0x80 then some 1
  else if n < 0xC0 then none
  else if n < 0xE0 then some 2
  else if n < 0xF0 then some 3
  else if n < 0xF8 then some 4
  else none

/-- Reads a tag's address into octets, the last one first. A percent sign stands for an octet; `pending`
    counts the octets that the current character still lacks. -/
def tagAddress (bracketed : Bool) (pending : Nat) (out : Bytes) : List Char → Option (Bytes × List Char)
  | '%' :: a :: b :: cs => match Text.hexDigit? a, Text.hexDigit? b with
    | some x, some y =>
      let n := x * 16 + y
      match pending with
      | 0 => match octetsOf? n with
        | some width => tagAddress bracketed (width - 1) (n.toUInt8 :: out) cs
        | none => none
      | pending + 1 =>
        if 0x80 ≤ n && n < 0xC0 then tagAddress bracketed pending (n.toUInt8 :: out) cs else none
    | _, _ => none
  | c :: cs =>
    if c == '%' || pending != 0 then none
    else if isTagChar bracketed c then tagAddress bracketed 0 (c.toNat.toUInt8 :: out) cs
    else some (out, c :: cs)
  | [] => if pending == 0 then some (out, []) else none

/-- An address in order; a zero ends it. -/
def address (octets : Bytes) : Bytes := octets.reverse.takeWhile (· != 0)

/-- The cursor at what is left of its text. -/
def Cursor.upTo (c : Cursor) (rest : List Char) : Cursor := c.skip (c.rest.length - rest.length)

/-- A tag as written: its handle and what follows it. -/
structure TagMark where
  handle : String
  suffix : Bytes
deriving DecidableEq, Repr

/-- A handle: an exclamation mark, and perhaps a name and another mark. -/
def tagHandle (c : Cursor) : Option (String × Cursor) := match c.rest with
  | '!' :: cs =>
    let name := cs.takeWhile isNameChar
    let c := c.skip (name.length + 1)
    match c.rest with
    | '!' :: _ => some (String.ofList ('!' :: name ++ ['!']), c.skip 1)
    | _ => some (String.ofList ('!' :: name), c)
  | _ => none

/-- Whether the handle is closed by a second mark. -/
def isClosed (handle : String) : Bool := 1 < handle.length && handle.endsWith "!"

/-- Reads a tag. -/
def tag (inFlow : Bool) (c : Cursor) : Option (TagMark × Cursor) := do
  let (t, c) ← match c.rest with
    | '!' :: '<' :: cs => do
      let (octets, rest) ← tagAddress true 0 [] cs
      match rest with
      | '>' :: rest => if octets.isEmpty then none else some (⟨"", address octets⟩, c.upTo rest)
      | _ => none
    | _ => do
      let (handle, after) ← tagHandle c
      if isClosed handle then
        let (octets, rest) ← tagAddress false 0 [] after.rest
        if octets.isEmpty then none else some (⟨handle, address octets⟩, after.upTo rest)
      else
        let (octets, rest) ← tagAddress false 0 (Text.bytes handle).reverse after.rest
        let suffix := (address octets).drop 1
        some (if suffix.isEmpty then ⟨"", Text.bytes "!"⟩ else ⟨"!", suffix⟩, after.upTo rest)
  if spaceNext c.rest then some (t, c)
  else match c.rest with
    | ',' :: _ => if inFlow then some (t, c) else none
    | _ => none

/-- Reads the name of an anchor, behind its mark. -/
def anchorName (c : Cursor) : Option (String × Cursor) :=
  let name := c.rest.takeWhile isNameChar
  let c := c.skip name.length
  let ends := spaceNext c.rest || match c.rest with
    | x :: _ => ['?', ':', ',', ']', '\x7d', '%', '@', '\x60'].contains x
    | [] => true
  if name.isEmpty || !ends then none else some (String.ofList name, c)

/-- A directive: the version of the language, or a handle for tags. -/
inductive Directive where
  | version (major minor : Nat)
  | handle (handle : String) (start : Bytes)
deriving DecidableEq, Repr

/-- Reads a number of at most nine digits. -/
def versionNumber (c : Cursor) : Option (Nat × Cursor) :=
  let ds := c.rest.takeWhile Char.isDigit
  if ds.isEmpty || 9 < ds.length then none
  else some (Text.numberOf 10 (ds.map fun d => d.toNat - 48), c.skip ds.length)

/-- Reads the value of a directive by its name. -/
def directiveValue (name : List Char) (c : Cursor) : Option (Directive × Cursor) :=
  if name == ['Y', 'A', 'M', 'L'] then do
    let (major, c) ← versionNumber (c.skipWhile isBlank)
    match c.rest with
    | '.' :: _ =>
      let (minor, c) ← versionNumber (c.skip 1)
      some (.version major minor, c)
    | _ => none
  else if name == ['T', 'A', 'G'] then do
    let (handle, c) ← tagHandle (c.skipWhile isBlank)
    if handle != "!" && !isClosed handle then none
    else match c.rest with
      | b :: _ =>
        if !isBlank b then none
        else
          let c := c.skipWhile isBlank
          let (octets, rest) ← tagAddress true 0 [] c.rest
          if octets.isEmpty || !spaceNext rest then none
          else some (.handle handle (address octets), c.upTo rest)
      | [] => none
  else none

/-- Reads a directive and its line, behind the percent sign. -/
def directive (c : Cursor) : Option (Directive × Cursor) := do
  let name := c.rest.takeWhile isNameChar
  let c := c.skip name.length
  if name.isEmpty || !spaceNext c.rest then none
  else
    let (d, c) ← directiveValue name c
    let c := c.skipComment
    if endNext c.rest then some (d, c.skipBreak) else none

end Courier.Yaml
