import Courier.Text.Utf8

/-! Percent-encoding.

    A part of a URL writes a byte as `%` and two hexadecimal digits unless it is printable ASCII outside
    the set of that part; what is already encoded stays. -/

namespace Courier.Url

/-- A digit of an encoded byte. -/
def hexUpper (n : Nat) : Char := if n < 10 then Char.ofNat (48 + n) else Char.ofNat (55 + n)

/-- One byte, encoded. -/
def percentByte (b : UInt8) : List Char := ['%', hexUpper (b.toNat / 16), hexUpper (b.toNat % 16)]

/-- One character, encoded unless it is printable ASCII outside `set`. -/
def percentChar (set : List Char) (c : Char) : List Char :=
  if c.toNat < 32 || 126 < c.toNat || set.contains c then (Text.charBytes c).flatMap percentByte else [c]

/-- Characters, encoded. -/
def percent (set : List Char) (cs : List Char) : String := String.ofList (cs.flatMap (percentChar set))

/-- What a fragment encodes. -/
def fragmentSet : List Char := [' ', '"', '<', '>', '\x60']

/-- What a path encodes. -/
def pathSet : List Char := fragmentSet ++ ['#', '?', '\x7b', '\x7d']

/-- What user and password encode. -/
def userSet : List Char := pathSet ++ ['/', ':', ';', '=', '@', '[', '\\', ']', '^', '|']

/-- What a query encodes. -/
def querySet : List Char := [' ', '"', '#', '<', '>']

/-- What the query of a special scheme encodes. -/
def specialQuerySet : List Char := querySet ++ ['\x27']

/-- The value of a hexadecimal digit. -/
def hexValue? (c : Char) : Option Nat :=
  if '0' ≤ c && c ≤ '9' then some (c.toNat - 48)
  else if 'a' ≤ c && c ≤ 'f' then some (c.toNat - 87)
  else if 'A' ≤ c && c ≤ 'F' then some (c.toNat - 55)
  else none

/-- The bytes that a percent-encoded text stands for; a sign that opens no byte stands for itself. -/
def percentDecode : List Char → Bytes
  | [] => []
  | '%' :: a :: b :: rest => match hexValue? a, hexValue? b with
    | some x, some y => (x * 16 + y).toUInt8 :: percentDecode rest
    | _, _ => 37 :: percentDecode (a :: b :: rest)
  | c :: rest => Text.charBytes c ++ percentDecode rest

end Courier.Url
