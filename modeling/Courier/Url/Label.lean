import Courier.Text.Composition
import Courier.Url.LabelTable

/-! Labels beyond ASCII.

    Not every text in plain characters can be a label: a mark needs a letter before it, a joiner letters
    that it joins, and letters and numbers that run in different directions must not trade places when
    they are displayed. -/

namespace Courier.Url

/-- How a character takes part in the direction of a label. -/
inductive Direction where
  | rightward
  | leftward
  | europeanNumber
  | arabicNumber
  | neutral
  | spaceless
deriving DecidableEq, Repr

/-- How a character takes part in the direction of a label. -/
def directionOf (c : Char) : Direction :=
  let n := c.toNat
  if n < 128 then if c.isAlpha then .rightward else if c.isDigit then .europeanNumber else .neutral
  else if Text.inRanges leftwardRanges n then .leftward
  else if Text.inRanges arabicNumberRanges n then .arabicNumber
  else if Text.inRanges europeanNumberRanges n then .europeanNumber
  else if Text.inRanges neutralRanges n then .neutral
  else if Text.inRanges spacelessRanges n then .spaceless
  else .rightward

/-- Whether a character makes the direction of a domain matter. -/
def runsLeftward (c : Char) : Bool :=
  directionOf c = .leftward || directionOf c = .arabicNumber

/-- What may stand anywhere in a label that starts rightward. -/
def fitsRightward : Direction → Bool
  | .leftward | .arabicNumber => false
  | _ => true

/-- What may stand anywhere in a label that starts leftward. -/
def fitsLeftward (d : Direction) : Bool := d != .rightward

/-- Whether a label keeps its order on display: all of it fits its first character, it ends in a letter
    or number, and numbers are of one kind. -/
def keepsOrder (label : List Char) : Bool :=
  let directions := label.map directionOf
  let last := directions.reverse.find? (· != .spaceless)
  match directions.head? with
  | none => true
  | some .rightward =>
    directions.all fitsRightward && (last == some .rightward || last == some .europeanNumber)
  | some .leftward =>
    directions.all fitsLeftward && last != some .neutral &&
      !(directions.contains .europeanNumber && directions.contains .arabicNumber)
  | some _ => false

/-- The joiner that keeps letters apart. -/
def nonJoiner : Char := Char.ofNat 0x200C

/-- The joiner that brings letters together. -/
def joiner : Char := Char.ofNat 0x200D

/-- The rank of a mark that ends a consonant without a vowel. -/
def viramaRank : Nat := 9

/-- The first character that is not looked through when letters join. -/
def joinedNext? (cs : List Char) : Option Nat :=
  (cs.map Char.toNat).find? fun n => !Text.inRanges transparentRanges n

/-- Whether a joiner may stand between the characters before it, nearest first, and those after it. -/
def joinerFits (c : Char) (before after : List Char) : Bool :=
  (before.head?.map Text.rankOf == some viramaRank) ||
    (c == nonJoiner &&
      (joinedNext? before).any (Text.inRanges (bothJoiningRanges ++ nextJoiningRanges)) &&
      (joinedNext? after).any (Text.inRanges (bothJoiningRanges ++ previousJoiningRanges)))

/-- Whether every joiner fits, given the characters before, nearest first. -/
def joinersFit (before : List Char) : List Char → Bool
  | [] => true
  | c :: after =>
    ((c != nonJoiner && c != joiner) || joinerFits c before after) && joinersFit (c :: before) after

/-- Whether a text in plain characters can be a label. -/
def isLabel (cs : List Char) : Bool :=
  !(cs.head?.any fun c => Text.inRanges markRanges c.toNat) && joinersFit [] cs

end Courier.Url
