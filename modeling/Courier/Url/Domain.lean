import Courier.Text.Utf8
import Courier.Url.Label
import Courier.Url.Percent
import Courier.Url.Plain
import Courier.Url.Punycode

/-! Domains.

    A domain is decoded, brought to plain text and cut into labels at its dots. A label beyond ASCII is
    then encoded; a label that came encoded must be the encoding of one in plain text. -/

namespace Courier.Url

/-- What opens a label that stands for letters beyond ASCII. -/
def foreignMark : List Char := ['x', 'n', '-', '-']

/-- The most characters of an encoded label that are decoded, behind its opening. -/
def longestEncoded : Nat := 2000

/-- The most characters of a label that are encoded. -/
def longestDecoded : Nat := 1000

/-- Whether all characters are ASCII. -/
def isAscii (cs : List Char) : Bool := cs.all fun c => c.toNat < 128

/-- The letters that an encoded label stands for. -/
def foreignLabel? (encoded : List Char) : Option (List Char) := do
  if !isAscii encoded || encoded.getLast? == some '-' || longestEncoded < encoded.length then failure
  let label ← Punycode.decode encoded
  if isAscii label || plain? label != some label || Punycode.encode label != encoded then failure
  return label

/-- A label as it is written, and as it reads. -/
structure Label where
  written : List Char
  letters : List Char

/-- A label of plain text. -/
def label? (cs : List Char) : Option Label := do
  if foreignMark.isPrefixOf cs then
    let letters ← foreignLabel? (cs.drop foreignMark.length)
    if isLabel letters then return ⟨cs, letters⟩ else failure
  else if isAscii cs then return ⟨cs, cs⟩
  else if isLabel cs && cs.length ≤ longestDecoded then return ⟨foreignMark ++ Punycode.encode cs, cs⟩
  else failure

/-- A domain in ASCII. -/
def domain? (cs : List Char) : Option (List Char) := do
  let decoded ← (Text.decodeChars (percentDecode cs)).toOption
  let labels ← ((← plain? decoded).splitOn '.').mapM label?
  if labels.any (·.letters.any runsLeftward) && !labels.all (keepsOrder ·.letters) then failure
  return List.intercalate ['.'] (labels.map (·.written))

end Courier.Url
