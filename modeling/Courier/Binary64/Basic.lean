import Courier.Power

/-! Binary floating point of 53 digits.

    A finite double is a sign, a whole mantissa and a scale: it stands for `mantissa · 2^(scale - 1074)`.
    Every real has one nearest such number, ties going to the even mantissa; each operation here is
    exact on integers first and rounded once at the end. -/

namespace Courier

/-- The mantissa keeps 53 binary digits, all of them used above the smallest scale. -/
def Canonical (mantissa scale : Nat) : Prop :=
  mantissa < twoTo 53 ∧ scale ≤ 2045 ∧ (scale = 0 ∨ twoTo 52 ≤ mantissa)

instance (m s : Nat) : Decidable (Canonical m s) :=
  inferInstanceAs (Decidable (_ ∧ _ ∧ (_ ∨ _)))

/-- A finite double, zero with either sign included. -/
structure Binary64 where
  negative : Bool
  mantissa : Nat
  scale : Nat
  canonical : Canonical mantissa scale
deriving DecidableEq

namespace Binary64

/-- Zero of the given sign. -/
def zero (negative : Bool) : Binary64 := ⟨negative, 0, 0, by decide⟩

instance : Inhabited Binary64 := ⟨zero false⟩

/-- Whether the number is zero of either sign. -/
def isZero (x : Binary64) : Bool := x.mantissa == 0

/-- The same number with the opposite sign. -/
def negate (x : Binary64) : Binary64 := { x with negative := !x.negative }

/-- The whole number nearest to `num / den`, the even one of two. -/
def nearest (num den : Nat) : Nat :=
  let q := num / den
  let twice := 2 * (num % den)
  if twice < den then q else if den < twice then q + 1 else q + q % 2

/-- The scale at which `num / den` units of `2^-1074` fill 53 digits. -/
def scaleFor (num den : Nat) : Nat := Nat.log2 (num / den) - 52

/-- A mantissa that rounded up to `2^53` moves to the next scale; beyond the last there is none. -/
def settle (negative : Bool) (mantissa scale : Nat) : Option Binary64 :=
  let m := if mantissa == twoTo 53 then twoTo 52 else mantissa
  let s := if mantissa == twoTo 53 then scale + 1 else scale
  if h : Canonical m s then some ⟨negative, m, s, h⟩ else none

/-- The double nearest to `num / den` units of `2^-1074`; `none` if it exceeds every double. -/
def ofUnits (negative : Bool) (num den : Nat) : Option Binary64 :=
  let s := scaleFor num den
  settle negative (nearest num (den * twoTo s)) s

/-- The double nearest to `num / den`. -/
def ofRatio (negative : Bool) (num den : Nat) : Option Binary64 :=
  ofUnits negative (num * twoTo 1074) den

/-- The double nearest to `±n`. -/
def ofNat (negative : Bool) (n : Nat) : Option Binary64 := ofRatio negative n 1

/-- The product, rounded. -/
def mul (x y : Binary64) : Option Binary64 :=
  ofUnits (x.negative != y.negative) (x.mantissa * y.mantissa * twoTo (x.scale + y.scale)) (twoTo 1074)

/-- The quotient by a number other than zero, rounded. -/
def div (x y : Binary64) : Option Binary64 :=
  ofUnits (x.negative != y.negative) (x.mantissa * twoTo (x.scale + 1074)) (y.mantissa * twoTo y.scale)

/-- Powers beyond these round every 25-digit number to zero or exceed every double. -/
def decimalLimit : Nat := 400

/-- The double nearest to `digits · 10^exponent`; `none` if it exceeds every double.
    `places` is the number of digits written. -/
def ofDecimal (negative : Bool) (digits : Nat) (places : Nat) (exponent : Int) : Option Binary64 :=
  if digits == 0 then some (zero negative)
  else if exponent + places < -(decimalLimit : Int) then some (zero negative)
  else if (decimalLimit : Int) < exponent + places then none
  else if 0 ≤ exponent then ofRatio negative (digits * tenTo exponent.toNat) 1
  else ofRatio negative digits (tenTo (-exponent).toNat)

/-- The double nearest to `whole.fraction · 10^exponent`, given by its digits. -/
def ofDigits (negative : Bool) (whole fraction : List Nat) (exponent : Int) : Option Binary64 :=
  let n := (whole ++ fraction).foldl (fun n d => n * 10 + d) 0
  ofDecimal negative n (Nat.toDigits 10 n).length (exponent - fraction.length)

end Binary64
end Courier
