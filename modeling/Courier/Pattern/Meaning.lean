import Courier.Pattern.Expr
import Courier.Pattern.Fault

/-! The meaning of patterns under flags.

    Texts are read character by character unless a flag asks for octets. Of octets only ASCII can be told,
    so that no class of them may reach further. Of characters all can be told, but neither case nor the
    classes that a letter stands for are known beyond ASCII. -/

namespace Courier.Pattern

/-- The flags in force; octets are read where `unicode` is not set. -/
structure Flags where
  caseless : Bool
  manyLines : Bool
  dotAll : Bool
  unicode : Bool
  returns : Bool

namespace Flags

/-- The flags where a pattern starts. -/
def initial : Flags := ⟨false, false, false, true, false⟩

/-- Changes one flag. -/
def change (f : Flags) (flag : Flag) (value : Bool) : Flags := match flag with
  | .caseless => { f with caseless := value }
  | .manyLines => { f with manyLines := value }
  | .dotAll => { f with dotAll := value }
  | .unicode => { f with unicode := value }
  | .returns => { f with returns := value }
  | .swapped => f
  | .spaced => f

/-- The flags after changes. -/
def after (f : Flags) (changes : FlagChanges) : Flags :=
  changes.foldl (fun f c => f.change c.1 c.2) f

end Flags

/-- The ASCII characters of a class that goes by a name. -/
def Named.set : Named → CharSet
  | .alnum => [(48, 57), (65, 90), (97, 122)]
  | .alpha => [(65, 90), (97, 122)]
  | .ascii => [(0, 127)]
  | .blank => [(9, 9), (32, 32)]
  | .cntrl => [(0, 31), (127, 127)]
  | .digit => [(48, 57)]
  | .graph => [(33, 126)]
  | .lower => [(97, 122)]
  | .print => [(32, 126)]
  | .punct => [(33, 47), (58, 64), (91, 96), (123, 126)]
  | .space => [(9, 13), (32, 32)]
  | .upper => [(65, 90)]
  | .word => [(48, 57), (65, 90), (95, 95), (97, 122)]
  | .xdigit => [(48, 57), (65, 70), (97, 102)]

/-- The set with other cases, as far as they are known. -/
def folded (f : Flags) (span : Span) (s : CharSet) : Except Fault CharSet :=
  if !f.caseless || s.isEmpty then .ok s
  else if f.unicode then .error (Cause.unknownCase.at span)
  else .ok s.withCases

/-- The set with other cases, or all but it. -/
def foldedOrNot (f : Flags) (span : Span) (negated : Bool) (s : CharSet) : Except Fault CharSet := do
  let s ← folded f span s
  if !negated then return s
  else if f.unicode then return s.complement
  else .error (Cause.invalidUtf8.at span)

/-- The code point of a literal; of octets none beyond ASCII can be told. -/
def Literal.code (f : Flags) (l : Literal) : Except Fault Nat :=
  if !f.unicode && l.isOctet && 128 ≤ l.char.toNat then .error (Cause.invalidUtf8.at l.span)
  else .ok l.char.toNat

/-- The code point of a literal in a class. -/
def Literal.classCode (f : Flags) (l : Literal) : Except Fault Nat := do
  let n ← l.code f
  if !f.unicode && 128 ≤ n then .error (Cause.unicodeForbidden.at l.span) else return n

/-- The name of a property in its plain form: small ASCII letters without blanks, dashes, underscores and
    a first `is`. -/
def plainProperty (name : List Char) : List Char :=
  let rest := if (name.take 2).map Char.toLower == ['i', 's'] then name.drop 2 else name
  (rest.filter fun c => c.toNat < 128 && !([' ', '_', '-'].contains c)).map Char.toLower

/-- The fault of a property; properties are not known, but some names can only be values of one. -/
def propertyCause (f : Flags) (name : List Char) : Cause :=
  if !f.unicode then .unicodeForbidden
  else if !(name.any [':', '='].contains) &&
      ["cf", "sc", "lc"].contains (String.ofList (plainProperty name)) then .unknownPropertyValue
  else .unknownProperty

/-- Two classes combined. -/
def ClassOp.apply : ClassOp → CharSet → CharSet → CharSet
  | .intersection => CharSet.intersection
  | .difference => CharSet.difference
  | .symmetricDifference => CharSet.symmetricDifference

mutual
/-- The characters of a class. -/
def CharClass.meaning (f : Flags) : CharClass → Except Fault CharSet
  | .empty _ => .ok []
  | .literal l => do
    let n ← l.classCode f
    return [(n, n)]
  | .range _ first last => do
    let low ← first.classCode f
    let high ← last.classCode f
    return [(low, high)]
  | .named span negated kind => foldedOrNot f span negated kind.set
  | .shorthand span negated kind =>
    if f.unicode then .error (Cause.unknownShorthand.at span)
    else if negated then .error (Cause.invalidUtf8.at span)
    else .ok kind.set
  | .property span _ name => .error ((propertyCause f name).at span)
  | .bracketed span negated inner => do
    let s ← inner.meaning f
    foldedOrNot f span negated s
  | .union _ parts => CharClass.someMeaning f parts
  | .operation _ op left right => do
    let a ← left.meaning f
    let b ← right.meaning f
    let b ← folded f right.span b
    let a ← folded f left.span a
    return op.apply a b

/-- The characters of one of some classes. -/
def CharClass.someMeaning (f : Flags) : List CharClass → Except Fault CharSet
  | [] => .ok []
  | c :: cs => do
    let a ← c.meaning f
    let b ← CharClass.someMeaning f cs
    return a.union b
end

/-- The characters of a literal. -/
def Literal.meaning (f : Flags) (l : Literal) : Except Fault CharSet := do
  let n ← l.code f
  folded f l.span [(n, n)]

/-- The characters that a dot stands for: all but those that end lines. -/
def dotMeaning (f : Flags) (span : Span) : Except Fault CharSet :=
  if !f.unicode then .error (Cause.invalidUtf8.at span)
  else if f.dotAll then .ok (CharSet.complement [])
  else if f.returns then .ok (CharSet.complement [(10, 10), (13, 13)])
  else .ok (CharSet.complement [(10, 10)])

/-- The condition of an edge. -/
def Edge.look (f : Flags) : Edge → Look
  | .lineStart => if f.manyLines then .lineStart f.returns else .textStart
  | .lineStop => if f.manyLines then .lineStop f.returns else .textStop
  | .textStart => .textStart
  | .textStop => .textStop
  | .word kind => if f.unicode then .anyWord kind else .word kind

mutual
/-- What a pattern stands for, and the flags behind it. -/
def Tree.meaning (f : Flags) : Tree → Except Fault (Expr × Flags)
  | .empty _ => .ok (.nothing, f)
  | .flags _ changes => .ok (.nothing, f.after changes)
  | .literal l => do
    let s ← l.meaning f
    return (.chars s, f)
  | .dot span => do
    let s ← dotMeaning f span
    return (.chars s, f)
  | .edge _ kind => .ok (.look (kind.look f), f)
  | .ofClass c => do
    let s ← c.meaning f
    return (.chars s, f)
  | .repetition _ least most sub => do
    let (e, f) ← sub.meaning f
    return (e.repeated least most, f)
  | .group _ keeps changes sub => do
    let (e, _) ← sub.meaning (f.after changes)
    return (if keeps then .kept e else e, f)
  | .alternation _ subs => Tree.eitherMeaning f subs
  | .concat _ subs => Tree.bothMeaning f subs

/-- What branches stand for. -/
def Tree.eitherMeaning (f : Flags) : List Tree → Except Fault (Expr × Flags)
  | [] => .ok (.nothing, f)
  | [t] => t.meaning f
  | t :: ts => do
    let (a, f) ← t.meaning f
    let (b, f) ← Tree.eitherMeaning f ts
    return (.either a b, f)

/-- What parts in a row stand for. -/
def Tree.bothMeaning (f : Flags) : List Tree → Except Fault (Expr × Flags)
  | [] => .ok (.nothing, f)
  | [t] => t.meaning f
  | t :: ts => do
    let (a, f) ← t.meaning f
    let (b, f) ← Tree.bothMeaning f ts
    return (.both a b, f)
end

end Courier.Pattern
