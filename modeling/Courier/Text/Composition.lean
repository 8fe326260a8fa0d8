import Courier.Text.CompositionTable
import Courier.Text.Ranges

/-! Composed text.

    A letter and its marks may be one character or several. In composed text each takes as few as it can,
    and marks stand in the order of their ranks. Text is composed in three steps: everything is taken
    apart, marks are sorted, and each letter takes up the marks it can. -/

namespace Courier.Text

/-- Characters two by two. -/
def inPairs : List Char → List (Char × Char)
  | a :: b :: cs => (a, b) :: inPairs cs
  | _ => []

/-- Where the syllables of Hangul begin, and their three kinds of parts. -/
def hangulStart : Nat := 0xAC00

/-- The parts of a syllable of Hangul, the third of which may be missing. -/
def hangulParts? (n : Nat) : Option (List Char) :=
  if hangulStart ≤ n && n < hangulStart + 19 * 588 then
    let i := n - hangulStart
    let third := if i % 28 == 0 then [] else [Char.ofNat (0x11A7 + i % 28)]
    some (Char.ofNat (0x1100 + i / 588) :: Char.ofNat (0x1161 + i % 588 / 28) :: third)
  else none

/-- The syllable of Hangul that two characters make. -/
def hangulSyllable? (a b : Nat) : Option Char :=
  if 0x1100 ≤ a && a < 0x1100 + 19 && 0x1161 ≤ b && b < 0x1161 + 21 then
    some (Char.ofNat (hangulStart + (a - 0x1100) * 588 + (b - 0x1161) * 28))
  else if hangulStart ≤ a && a < hangulStart + 19 * 588 && (a - hangulStart) % 28 == 0
      && 0x11A7 < b && b < 0x11A7 + 28 then
    some (Char.ofNat (a + (b - 0x11A7)))
  else none

/-- The two parts of a character, if it has them. -/
def parts? (c : Char) : Option (Char × Char) :=
  compositions.findSome? fun row =>
    ((inPairs row.2.toList).find? fun p => p.2 == c).map fun p => (p.1, Char.ofNat row.1)

/-- The character that two others make. -/
def made? (a b : Char) : Option Char :=
  (hangulSyllable? a.toNat b.toNat).or <| compositions.findSome? fun row =>
    if row.1 == b.toNat then ((inPairs row.2.toList).find? fun p => p.1 == a).map (·.2) else none

/-- A character taken apart so many times over. -/
def takenApart : Nat → Char → List Char
  | 0, c => [c]
  | times + 1, c => match hangulParts? c.toNat with
    | some parts => parts
    | none => match parts? c with
      | some (a, b) => takenApart times a ++ [b]
      | none => [c]

/-- No character hides more marks than this. -/
def mostMarks : Nat := 4

/-- The rank of a mark; what is no mark has none. -/
def rankOf (c : Char) : Nat :=
  ((rankRuns.find? fun r => r.1 ≤ c.toNat && c.toNat ≤ r.2.1).map fun r => r.2.2).getD 0

/-- Puts a character behind others, the last one first, but before marks of higher rank. -/
def putMark (c : Char) : List Char → List Char
  | [] => [c]
  | d :: before =>
    if 0 < rankOf c && rankOf c < rankOf d then d :: putMark c before else c :: d :: before

/-- Text being composed, the last character first: what is done, the character that may still take up
    marks, and the marks behind it. -/
structure Composing where
  done : List Char
  letter : Option Char
  marks : List Char

namespace Composing

/-- All characters, the last one first. -/
def all (t : Composing) : List Char := t.marks ++ t.letter.toList ++ t.done

/-- Whether nothing stands between the letter and a character of a rank. -/
def reaches (t : Composing) (rank : Nat) : Bool := match t.marks with
  | [] => true
  | m :: _ => rankOf m < rank

/-- Takes a character that is not taken up. -/
def keep (t : Composing) (c : Char) : Composing :=
  if rankOf c == 0 then ⟨t.all, some c, []⟩ else { t with marks := c :: t.marks }

/-- Takes a character. -/
def take (t : Composing) (c : Char) : Composing := match t.letter with
  | none => t.keep c
  | some a =>
    if t.reaches (rankOf c) then match made? a c with
      | some b => { t with letter := some b }
      | none => t.keep c
    else t.keep c

end Composing

/-- The text composed. -/
def composed (cs : List Char) : List Char :=
  let sorted := (cs.flatMap (takenApart mostMarks)).foldl (fun before c => putMark c before) []
  (sorted.reverse.foldl Composing.take ⟨[], none, []⟩).all.reverse

end Courier.Text
