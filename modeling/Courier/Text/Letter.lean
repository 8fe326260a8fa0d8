import Courier.Text.LetterTable

/-! Small letters.

    ASCII names (methods, header names, schemes) fold by `lowerAscii`; names that people choose fold
    by the Unicode rule `lower`, where a capital sigma at the end of a word takes its final form. -/

namespace Courier.Text

/-- Small form of ASCII capitals; every other character stays. -/
def lowerAscii (s : String) : String := String.ofList (s.toList.map Char.toLower)

/-- Capital form of ASCII small letters; every other character stays. -/
def upperAscii (s : String) : String := String.ofList (s.toList.map Char.toUpper)

/-- Whether the character is a letter with case. -/
def isCased (c : Char) : Bool := inRanges casedRanges c.toNat

/-- Whether case rules look through the character. -/
def isCaseIgnorable (c : Char) : Bool := inRanges caseIgnorableRanges c.toNat

/-- The small form of one character on its own. -/
def lowerChar (c : Char) : List Char :=
  let n := c.toNat
  if n < 128 then [c.toLower]
  else if n == 0x130 then ['i', Char.ofNat 0x307]
  else [(shifted? lowerRuns n).getD c]

/-- Whether a letter with case comes next, marks aside. -/
def casedNext (cs : List Char) : Bool := match cs.dropWhile isCaseIgnorable with
  | c :: _ => isCased c
  | [] => false

/-- Small forms of `after`, given the characters before it, nearest first. -/
def lowerFrom (before : List Char) : List Char → List Char
  | [] => []
  | c :: after =>
    (if c == 'Σ' then if casedNext before && !casedNext after then ['ς'] else ['σ'] else lowerChar c)
      ++ lowerFrom (c :: before) after

/-- The string in small letters. -/
def lower (s : String) : String := String.ofList (lowerFrom [] s.toList)

end Courier.Text
