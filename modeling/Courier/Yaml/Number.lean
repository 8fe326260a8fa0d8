import Courier.Json.Basic
import Courier.Power
import Courier.Text.Piece

/-! Numbers of YAML. -/

namespace Courier.Yaml

/-- What a plain text stands for as a number: one that JSON has, one without end or without value, or a
    whole number too great to be kept. -/
inductive Numeric where
  | number (value : Number)
  | infinite (negative : Bool)
  | undefined
  | tooGreat
deriving DecidableEq

/-- The digits of a text to a base, at least one. -/
def digitsTo? (base : Nat) (cs : List Char) : Option (List Nat) :=
  if cs.isEmpty then none
  else cs.mapM fun c => (Text.hexDigit? c).filter fun d => d < base

/-- The natural number that a text stands for to a base. -/
def naturalTo? (base : Nat) (cs : List Char) : Option Nat := (digitsTo? base cs).map (Text.numberOf base)

/-- Whether a text is several digits that begin with a zero, which is no number. -/
def isPadded (cs : List Char) : Bool :=
  let cs := match cs with
    | '-' :: rest => rest
    | '+' :: rest => rest
    | _ => cs
  match cs with
  | '0' :: c :: rest => (c :: rest).all Char.isDigit
  | _ => false

/-- The natural number that a text without a sign stands for: decimal, or to the base its start tells. -/
def natural? : List Char → Option Nat
  | '0' :: 'x' :: cs => naturalTo? 16 cs
  | '0' :: 'o' :: cs => naturalTo? 8 cs
  | '0' :: 'b' :: cs => naturalTo? 2 cs
  | cs => if isPadded cs then none else naturalTo? 10 cs

/-- The whole number that a text stands for, if 128 bits hold it. -/
def whole? (cs : List Char) : Option Int := match cs with
  | '-' :: rest => ((natural? rest).filter fun n => n ≤ twoTo 127).map fun n => -(n : Int)
  | '+' :: rest => ((natural? rest).filter fun n => n < twoTo 128).map Int.ofNat
  | _ => ((natural? cs).filter fun n => n < twoTo 128).map Int.ofNat

/-- A whole number as it is kept. -/
def Numeric.ofWhole (n : Int) : Numeric := match Number.ofInt? n with
  | some v => .number v
  | none => .tooGreat

/-- The double that a decimal text without a sign stands for, if it is finite. -/
def decimal? (negative : Bool) (cs : List Char) : Option Binary64 :=
  let digit (c : Char) : Nat := c.toNat - 48
  let whole := cs.takeWhile Char.isDigit
  let cs := cs.drop whole.length
  let (fraction, cs) := match cs with
    | '.' :: rest =>
      let ds := rest.takeWhile Char.isDigit
      (ds, rest.drop ds.length)
    | _ => ([], cs)
  if whole.isEmpty && fraction.isEmpty then none
  else
    let made (e : Int) : Option Binary64 := Binary64.ofDigits negative (whole.map digit) (fraction.map digit) e
    match cs with
    | [] => made 0
    | e :: rest =>
      if e != 'e' && e != 'E' then none
      else match rest with
        | '-' :: ds => (naturalTo? 10 ds).bind fun n => made (-(n : Int))
        | '+' :: ds => (naturalTo? 10 ds).bind fun n => made n
        | ds => (naturalTo? 10 ds).bind fun n => made n

/-- The real number that a text stands for. -/
def real? (cs : List Char) : Option Numeric :=
  let isInfinite (s : String) : Bool := s == ".inf" || s == ".Inf" || s == ".INF"
  let text := String.ofList cs
  let unsigned := match cs with
    | '+' :: rest => rest
    | _ => cs
  if isInfinite (String.ofList unsigned) then some (.infinite false)
  else if text == "-.inf" || text == "-.Inf" || text == "-.INF" then some (.infinite true)
  else if text == ".nan" || text == ".NaN" || text == ".NAN" then some .undefined
  else
    let double := match cs with
      | '-' :: rest => decimal? true rest
      | _ => decimal? false unsigned
    double.map fun x => .number (.float x)

/-- The number that a plain text stands for. -/
def numeric? (text : String) : Option Numeric :=
  let cs := text.toList
  match whole? cs with
  | some n => some (.ofWhole n)
  | none => if isPadded cs then none else real? cs

end Courier.Yaml
