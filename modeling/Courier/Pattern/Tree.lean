import Courier.Pattern.Span

/-! Patterns as they are written.

    Each part of a pattern keeps the piece of text that it was read from, so that a fault found later can
    still be shown in its place. -/

namespace Courier.Pattern

/-- A character that stands for itself; one that is given by two hexadecimal digits may be an octet. -/
structure Literal where
  span : Span
  char : Char
  isOctet : Bool
deriving DecidableEq, Repr

/-- Classes of characters that go by a name. -/
inductive Named where
  | alnum
  | alpha
  | ascii
  | blank
  | cntrl
  | digit
  | graph
  | lower
  | print
  | punct
  | space
  | upper
  | word
  | xdigit
deriving DecidableEq, Repr

/-- How two classes are combined. -/
inductive ClassOp where
  | intersection
  | difference
  | symmetricDifference
deriving DecidableEq, Repr

/-- A class of characters. -/
inductive CharClass where
  | empty (span : Span)
  | literal (l : Literal)
  | range (span : Span) (first last : Literal)
  | named (span : Span) (negated : Bool) (kind : Named)
  | shorthand (span : Span) (negated : Bool) (kind : Named)
  | property (span : Span) (negated : Bool) (name : List Char)
  | bracketed (span : Span) (negated : Bool) (inner : CharClass)
  | union (span : Span) (parts : List CharClass)
  | operation (span : Span) (op : ClassOp) (left right : CharClass)
deriving Repr

/-- The piece of text of a class. -/
def CharClass.span : CharClass → Span
  | .empty s => s
  | .literal l => l.span
  | .range s _ _ => s
  | .named s _ _ => s
  | .shorthand s _ _ => s
  | .property s _ _ => s
  | .bracketed s _ _ => s
  | .union s _ => s
  | .operation s _ _ _ => s

/-- Edges of words: any, none, one of a kind, or a side that is no word. -/
inductive WordEdge where
  | either
  | neither
  | start
  | stop
  | halfStart
  | halfStop
deriving DecidableEq, Repr

/-- Conditions on a place. -/
inductive Edge where
  | lineStart
  | lineStop
  | textStart
  | textStop
  | word (kind : WordEdge)
deriving DecidableEq, Repr

/-- Flags that change how a pattern is understood. -/
inductive Flag where
  | caseless
  | manyLines
  | dotAll
  | swapped
  | unicode
  | returns
  | spaced
deriving DecidableEq, Repr

/-- Flags that are set or cleared, in order. -/
abbrev FlagChanges := List (Flag × Bool)

/-- The last change of a flag. -/
def FlagChanges.of? (changes : FlagChanges) (flag : Flag) : Option Bool :=
  (changes.reverse.find? fun c => c.1 == flag).map (·.2)

/-- A pattern. -/
inductive Tree where
  | empty (span : Span)
  | flags (span : Span) (changes : FlagChanges)
  | literal (l : Literal)
  | dot (span : Span)
  | edge (span : Span) (kind : Edge)
  | ofClass (c : CharClass)
  | repetition (span : Span) (least : Nat) (most : Option Nat) (sub : Tree)
  | group (span : Span) (keeps : Bool) (changes : FlagChanges) (sub : Tree)
  | alternation (span : Span) (subs : List Tree)
  | concat (span : Span) (subs : List Tree)
deriving Repr

/-- The piece of text of a pattern. -/
def Tree.span : Tree → Span
  | .empty s => s
  | .flags s _ => s
  | .literal l => l.span
  | .dot s => s
  | .edge s _ => s
  | .ofClass c => c.span
  | .repetition s _ _ _ => s
  | .group s _ _ _ => s
  | .alternation s _ => s
  | .concat s _ => s

/-- How deep a pattern may nest. -/
def deepest : Nat := 250

mutual
/-- The first part of a class that nests deeper than `room` allows. -/
def CharClass.tooDeep (room : Nat) : CharClass → Option Span
  | .bracketed s _ inner => if room == 0 then some s else inner.tooDeep (room - 1)
  | .union s parts => if room == 0 then some s else CharClass.someTooDeep (room - 1) parts
  | .operation s _ left right =>
    if room == 0 then some s else (left.tooDeep (room - 1)).or (right.tooDeep (room - 1))
  | _ => none

/-- The first part of some classes that nests deeper than `room` allows. -/
def CharClass.someTooDeep (room : Nat) : List CharClass → Option Span
  | [] => none
  | c :: cs => (c.tooDeep room).or (CharClass.someTooDeep room cs)
end

mutual
/-- The first part of a pattern that nests deeper than `room` allows. -/
def Tree.tooDeep (room : Nat) : Tree → Option Span
  | .ofClass c => c.tooDeep room
  | .repetition s _ _ sub => if room == 0 then some s else sub.tooDeep (room - 1)
  | .group s _ _ sub => if room == 0 then some s else sub.tooDeep (room - 1)
  | .alternation s subs => if room == 0 then some s else Tree.someTooDeep (room - 1) subs
  | .concat s subs => if room == 0 then some s else Tree.someTooDeep (room - 1) subs
  | _ => none

/-- The first part of some patterns that nests deeper than `room` allows. -/
def Tree.someTooDeep (room : Nat) : List Tree → Option Span
  | [] => none
  | t :: ts => (t.tooDeep room).or (Tree.someTooDeep room ts)
end

end Courier.Pattern
