import Courier.Binary64.Shortest

/-! Doubles as text.

    The shortest digits are written positionally from `0.00001` up to sixteen whole digits, always
    with a point; outside, with one digit before the point and a signed exponent. -/

namespace Courier.Binary64

/-- Characters of decimal digits. -/
def digitChars (ds : List Nat) : List Char := ds.map Nat.digitChar

/-- A signed exponent: `e+16`, `e-7`. -/
def exponentChars (e : Int) : List Char :=
  'e' :: (if e < 0 then '-' else '+') :: (Nat.toDigits 10 e.natAbs)

/-- The digits with their point, or with an exponent where positions run out. -/
def Decimal.chars (d : Decimal) : List Char :=
  let ds := digitChars d.digits
  let n : Int := ds.length
  if d.digits.isEmpty then ['0', '.', '0']
  else if 0 < d.point && d.point ≤ 16 then
    if n ≤ d.point then ds ++ List.replicate (d.point - n).toNat '0' ++ ['.', '0']
    else ds.take d.point.toNat ++ '.' :: ds.drop d.point.toNat
  else if -5 < d.point && d.point ≤ 0 then
    '0' :: '.' :: List.replicate (-d.point).toNat '0' ++ ds
  else
    (match ds with
      | [one] => [one]
      | first :: rest => first :: '.' :: rest
      | [] => []) ++ exponentChars (d.point - 1)

/-- The text of a double. -/
def chars (x : Binary64) : List Char :=
  (if x.negative then ['-'] else []) ++ x.shortest.chars

/-- The text of a double. -/
def text (x : Binary64) : String := String.ofList x.chars

end Courier.Binary64
