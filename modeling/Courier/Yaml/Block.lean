import Courier.Yaml.Text

/-! Scalars that are set in as blocks, their lines kept or folded. -/

namespace Courier.Yaml

/-- What becomes of the ends of lines behind a block: all go, one stays, or all stay. -/
inductive Chomping where
  | strip
  | clip
  | keep
deriving DecidableEq, Repr

/-- The header of a block: what becomes of its end, and how much deeper it stands, if that is told. -/
structure BlockHeader where
  chomping : Chomping
  increment : Option Nat
deriving DecidableEq, Repr

/-- The chomping that a mark stands for. -/
def chomping? (c : Char) : Option Chomping :=
  if c == '+' then some .keep else if c == '-' then some .strip else none

/-- The increment that a digit stands for; it is never 0. -/
def increment? (c : Char) : Option Nat := if c.isDigit && c != '0' then some (c.toNat - 48) else none

/-- Reads the marks of a header, in either order. -/
def blockHeader (c : Cursor) : BlockHeader × Cursor := match c.rest with
  | a :: rest => match chomping? a, increment? a with
    | some ch, _ => match rest.head?.bind increment? with
      | some n => (⟨ch, some n⟩, c.skip 2)
      | none => (⟨ch, none⟩, c.skip 1)
    | none, some n => match rest.head?.bind chomping? with
      | some ch => (⟨ch, some n⟩, c.skip 2)
      | none => (⟨.clip, some n⟩, c.skip 1)
    | none, none => (⟨.clip, none⟩, c)
  | [] => (⟨.clip, none⟩, c)

/-- What stands before the next line with text: ends of lines, the last one first, and the widest
    indentation seen. -/
structure BlockGap where
  breaks : List Char
  widest : Nat
  after : Cursor

/-- Passes empty lines and the indentation of the next line; where the indentation is not known, all of
    it. A tab may not stand in it. -/
def blockGap (indent : Option Nat) (breaks : List Char) (widest : Nat) :
    Place → List Char → Option BlockGap
  | p, [] => some ⟨breaks, max widest p.column, ⟨[], p⟩⟩
  | p, c :: cs =>
    let within := match indent with
      | some n => p.column < n
      | none => true
    if within && c == ' ' then blockGap indent breaks widest (p.next c) cs
    else if within && c == '\t' then none
    else if isBreak c then blockGap indent (c :: breaks) (max widest p.column) p.newLine cs
    else some ⟨breaks, max widest p.column, ⟨c :: cs, p⟩⟩

/-- A block being read, lists with the last character first: its text so far, the end of its last line,
    and whether that line began with a blank. -/
structure BlockDraft where
  out : List Char
  ending : List Char
  leadingBlank : Bool

/-- Adds a line to a block that keeps or folds its lines, behind a gap. -/
def BlockDraft.add (literal : Bool) (d : BlockDraft) (breaks line ending : List Char) : BlockDraft :=
  let blankFirst := match line with
    | c :: _ => isBlank c
    | [] => false
  let out := if !literal && d.ending == ['\n'] && !d.leadingBlank && !blankFirst then
      if breaks.isEmpty then ' ' :: d.out else d.out
    else d.ending ++ d.out
  ⟨line.reverse ++ (breaks ++ out), ending, blankFirst⟩

/-- Reads the lines of a block that is set in by `indent`. -/
def blockLines (literal : Bool) (indent : Nat) : Nat → BlockDraft → BlockGap → Option (BlockDraft × BlockGap)
  | 0, d, g => some (d, g)
  | fuel + 1, d, g =>
    if g.after.place.column != indent || g.after.rest.isEmpty then some (d, g)
    else
      let line := g.after.rest.takeWhile fun c => !isBreak c
      let c := g.after.skip line.length
      let ending := c.rest.take 1
      let c := c.skipBreak
      match blockGap (some indent) [] 0 c.place c.rest with
      | some next => blockLines literal indent fuel (d.add literal g.breaks line ending) next
      | none => none

/-- Reads a block behind its mark, in a collection that stands at column `outer`. -/
def block (literal : Bool) (outer : Int) (c : Cursor) : Option (String × Cursor) :=
  let (h, c) := blockHeader c
  let c := c.skipComment
  if !endNext c.rest then none
  else
    let c := c.skipBreak
    let told := h.increment.map fun n => n + outer.toNat
    match blockGap told [] 0 c.place c.rest with
    | none => none
    | some g =>
      let indent := told.getD (max g.widest (max 1 (outer + 1).toNat))
      match blockLines literal indent (c.rest.length + 1) ⟨[], [], false⟩ g with
      | none => none
      | some (d, g) =>
        let tail := match h.chomping with
          | .strip => []
          | .clip => d.ending
          | .keep => g.breaks ++ d.ending
        some (String.ofList (tail ++ d.out).reverse, g.after)

end Courier.Yaml
