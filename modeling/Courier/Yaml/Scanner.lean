import Courier.Yaml.Block
import Courier.Yaml.Fold
import Courier.Yaml.Tag

/-! From text to tokens.

    Block collections have no marks of their own: they open where a deeper column begins and close where
    a shallower one does. What turns out to be a key is known only at its colon, so the tokens that open
    it are put in later, at the place remembered for it. -/

namespace Courier.Yaml

/-- The tokens of a text. -/
inductive Token where
  | directive (directive : Directive)
  | documentStart
  | documentEnd
  | blockSequence
  | blockMapping
  | blockEnd
  | blockEntry
  | flowSequence
  | flowSequenceEnd
  | flowMapping
  | flowMappingEnd
  | flowEntry
  | key
  | value
  | alias (name : String)
  | anchor (name : String)
  | tag (mark : TagMark)
  | scalar (isPlain : Bool) (text : String)
  | streamEnd
deriving DecidableEq, Repr

/-- A place where a key may have begun: the number of the token there, and whether it must be a key. -/
structure KeyPlace where
  required : Bool
  number : Nat
  place : Place
deriving DecidableEq, Repr

/-- The state between tokens: the text left, the columns of the open block collections with the innermost
    first, the possible key of every open flow collection with the innermost first, whether a key may
    begin here, and the tokens so far, the last one first. -/
structure Scanner where
  cursor : Cursor
  indent : Int
  outer : List Int
  keys : List (Option KeyPlace)
  keyAllowed : Bool
  tokens : List Token

namespace Scanner

/-- The state at the start of a text. -/
def start (text : List Char) : Scanner := ⟨⟨text, ⟨0, 0, 0⟩⟩, -1, [], [none], true, []⟩

/-- Whether a flow collection is open. -/
def inFlow (s : Scanner) : Bool := 1 < s.keys.length

/-- The column as a number that can be compared with an indentation. -/
def column (s : Scanner) : Int := s.cursor.place.column

/-- Adds a token. -/
def emit (t : Token) (s : Scanner) : Scanner := { s with tokens := t :: s.tokens }

/-- Puts a token in before those from `number` on. -/
def insert (t : Token) (number : Nat) (s : Scanner) : Scanner :=
  let later := s.tokens.length - number
  { s with tokens := s.tokens.take later ++ t :: s.tokens.drop later }

/-- Passes characters of the line. -/
def skip (n : Nat) (s : Scanner) : Scanner := { s with cursor := s.cursor.skip n }

/-- Passes the mark of an encoding at the start of a line; it takes a column. -/
def passMark (c : Cursor) : Cursor := match c.place.column, c.rest with
  | 0, '\uFEFF' :: _ => c.skip 1
  | _, _ => c

/-- Passes white space, comments and ends of lines. A tab is white space only where no key may begin. -/
def passSpace : Nat → Scanner → Scanner
  | 0, s => s
  | fuel + 1, s =>
    let c := (passMark s.cursor).skipWhile fun x => x == ' ' || ((s.inFlow || !s.keyAllowed) && x == '\t')
    let c := match c.rest with
      | '#' :: _ => c.skipWhile fun x => !isBreak x
      | _ => c
    match c.rest with
    | x :: _ =>
      if isBreak x then
        passSpace fuel { s with cursor := c.skipBreak, keyAllowed := s.keyAllowed || !s.inFlow }
      else { s with cursor := c }
    | [] => { s with cursor := c }

/-- Gives up the possible keys that are too far back. One that must be a key is a fault. -/
def dropStale (s : Scanner) : Option Scanner :=
  let here := s.cursor.place
  let isStale (k : KeyPlace) : Bool := k.place.line < here.line || k.place.octets + 1024 < here.octets
  if s.keys.any fun k => k.any fun k => isStale k && k.required then none
  else some { s with keys := s.keys.map fun k => k.filter fun k => !isStale k }

/-- Gives up the possible key of the innermost collection. One that must be a key is a fault. -/
def dropKey (s : Scanner) : Option Scanner := match s.keys with
  | some k :: ks => if k.required then none else some { s with keys := none :: ks }
  | _ => some s

/-- Remembers that a key may begin here. -/
def saveKey (s : Scanner) : Option Scanner :=
  if !s.keyAllowed then some s
  else do
    let s ← s.dropKey
    let k : KeyPlace := ⟨!s.inFlow && s.indent == s.column, s.tokens.length, s.cursor.place⟩
    some { s with keys := some k :: s.keys.drop 1 }

/-- Opens a block collection at a deeper column, before the token of a number if one is given. -/
def roll (column : Int) (number : Option Nat) (t : Token) (s : Scanner) : Scanner :=
  if s.inFlow || column ≤ s.indent then s
  else
    let s := { s with outer := s.indent :: s.outer, indent := column }
    match number with
    | some n => s.insert t n
    | none => s.emit t

/-- Closes the block collections deeper than a column. -/
def closeDeeper (column : Int) : Int → List Int → List Token → Int × List Int × List Token
  | indent, [], tokens => (indent, [], tokens)
  | indent, i :: outer, tokens =>
    if column < indent then closeDeeper column i outer (.blockEnd :: tokens) else (indent, i :: outer, tokens)

/-- Closes the block collections deeper than a column. -/
def unroll (column : Int) (s : Scanner) : Scanner :=
  if s.inFlow then s
  else
    let (indent, outer, tokens) := closeDeeper column s.indent s.outer s.tokens
    { s with indent := indent, outer := outer, tokens := tokens }

/-- Closes everything before a mark between documents. -/
def closeAll (s : Scanner) : Option Scanner := do
  let s ← (s.unroll (-1)).dropKey
  some { s with keyAllowed := false }

/-- Takes a mark of so many characters. -/
def mark (n : Nat) (t : Token) (keyAllowed : Bool) (s : Scanner) : Scanner :=
  ({ s with keyAllowed := keyAllowed }.skip n).emit t

/-- Takes the opening mark of a flow collection. -/
def openFlow (t : Token) (s : Scanner) : Option Scanner := do
  let s ← s.saveKey
  some ({ s with keys := none :: s.keys }.mark 1 t true)

/-- Takes the closing mark of a flow collection. -/
def closeFlow (t : Token) (s : Scanner) : Option Scanner := do
  let s ← s.dropKey
  some ({ s with keys := if s.inFlow then s.keys.drop 1 else s.keys }.mark 1 t false)

/-- Takes the mark of an item, or of a key that is told by a question mark. -/
def blockMark (opening t : Token) (inFlowToo : Bool) (s : Scanner) : Option Scanner :=
  if !s.inFlow && !s.keyAllowed then none
  else do
    let s ← (s.roll s.column none opening).dropKey
    some (s.mark 1 t (!s.inFlow || inFlowToo))

/-- Takes a colon. If a key was possible, there was one. -/
def takeValue (s : Scanner) : Option Scanner := match s.keys with
  | some k :: ks =>
    let s := { s with keys := none :: ks }.insert .key k.number
    some ((s.roll k.place.column (some k.number) .blockMapping).mark 1 .value false)
  | _ =>
    if !s.inFlow && !s.keyAllowed then none
    else some ((s.roll s.column none .blockMapping).mark 1 .value (!s.inFlow))

/-- Takes a part of a node that may begin a key. -/
def takePart (read : Cursor → Option (Token × Cursor)) (s : Scanner) : Option Scanner := do
  let s ← s.saveKey
  let (t, c) ← read s.cursor
  some ({ s with cursor := c, keyAllowed := false }.emit t)

/-- Takes a scalar that is set in as a block. -/
def takeBlock (literal : Bool) (s : Scanner) : Option Scanner := do
  let s ← s.dropKey
  let (text, c) ← block literal s.indent (s.cursor.skip 1)
  some ({ s with cursor := c, keyAllowed := true }.emit (.scalar false text))

/-- Takes a plain scalar. -/
def takePlain (s : Scanner) : Option Scanner := do
  let s ← s.saveKey
  let p ← plain s.inFlow (s.indent + 1).toNat false .empty s.cursor.place s.cursor.rest
  some ({ s with cursor := p.after, keyAllowed := p.broken }.emit (.scalar true p.text))

/-- Takes a directive. -/
def takeDirective (s : Scanner) : Option Scanner := do
  let s ← s.closeAll
  let (d, c) ← directive (s.cursor.skip 1)
  some ({ s with cursor := c }.emit (.directive d))

/-- Whether a plain scalar may begin with a character, given what follows it. -/
def startsPlain (inFlow : Bool) (c : Char) (cs : List Char) : Bool :=
  if c == '-' then match cs with
    | d :: _ => !isBlank d
    | [] => true
  else if c == '?' || c == ':' then !inFlow && !spaceNext cs
  else !isBlank c && !isBreak c && !isFlowMark c &&
    !(['#', '&', '*', '!', '|', '>', '\x27', '"', '%', '@', '\x60'].contains c)

/-- Takes the next token but the last, by its first character. -/
def takeToken (c : Char) (cs : List Char) (s : Scanner) : Option Scanner :=
  let atStart := s.cursor.place.column == 0
  if atStart && c == '%' then s.takeDirective
  else if atStart && startsDocument (c :: cs) then s.closeAll.map (mark 3 .documentStart false)
  else if atStart && endsDocument (c :: cs) then s.closeAll.map (mark 3 .documentEnd false)
  else if c == '[' then s.openFlow .flowSequence
  else if c == '\x7b' then s.openFlow .flowMapping
  else if c == ']' then s.closeFlow .flowSequenceEnd
  else if c == '\x7d' then s.closeFlow .flowMappingEnd
  else if c == ',' then s.dropKey.map (mark 1 .flowEntry true)
  else if c == '-' && spaceNext cs then s.blockMark .blockSequence .blockEntry true
  else if c == '?' && (s.inFlow || spaceNext cs) then s.blockMark .blockMapping .key false
  else if c == ':' && (s.inFlow || spaceNext cs) then s.takeValue
  else if c == '*' then s.takePart fun c => (anchorName (c.skip 1)).map fun r => (.alias r.1, r.2)
  else if c == '&' then s.takePart fun c => (anchorName (c.skip 1)).map fun r => (.anchor r.1, r.2)
  else if c == '!' then s.takePart fun c => (tag s.inFlow c).map fun r => (.tag r.1, r.2)
  else if c == '|' && !s.inFlow then s.takeBlock true
  else if c == '>' && !s.inFlow then s.takeBlock false
  else if c == '\x27' then s.takePart fun c =>
    (singleQuoted false .empty (c.place.next '\x27') (c.rest.drop 1)).map fun r => (.scalar false r.1, r.2)
  else if c == '"' then s.takePart fun c =>
    (doubleQuoted false .empty (c.place.next '"') (c.rest.drop 1)).map fun r => (.scalar false r.1, r.2)
  else if startsPlain s.inFlow c cs then s.takePlain
  else none

/-- Where reading ends: the state after the last token, or the line of the fault. -/
def run : Nat → Scanner → Except Nat Scanner
  | 0, s => .error s.cursor.place.line
  | fuel + 1, s =>
    let s := passSpace (s.cursor.rest.length + 1) s
    let fault := s.cursor.place.line
    match s.dropStale with
    | none => .error fault
    | some s =>
      let s := s.unroll s.column
      match s.cursor.rest with
      | [] => match s.closeAll with
        | none => .error fault
        | some s => .ok (s.emit .streamEnd)
      | c :: cs => match s.takeToken c cs with
        | some s => run fuel s
        | none => .error fault

end Scanner

/-- The tokens of a text, or the line of the first fault. -/
def tokens (text : List Char) : Except Nat (List Token) :=
  match Scanner.run (text.length + 1) (.start text) with
  | .ok s => .ok s.tokens.reverse
  | .error line => .error line

end Courier.Yaml
