import Courier.Json.Cursor
import Courier.Power

/-! JSON numbers.

    Digits are gathered while they fit 64 bits; a numeral without point or exponent that fits is whole.
    Any other is the double of the gathered digits times or over a power of ten, each of the two steps
    rounded on its own. -/

namespace Courier.Json.Numeral

/-- The value of a digit byte. -/
def digit? (b : UInt8) : Option Nat := if 48 ≤ b && b ≤ 57 then some (b.toNat - 48) else none

/-- Reads digits. -/
def digits (s : Spot) : Bytes → List Nat × Cursor
  | [] => ([], ⟨s, []⟩)
  | b :: rest => match digit? b with
    | some d => let more := digits (s.next b) rest; (d :: more.1, more.2)
    | none => ([], ⟨s, b :: rest⟩)

/-- A word of 64 bits holds at most this. -/
def wordMax : Nat := twoTo 64 - 1

/-- Digits gathered in front of the point: those that fit, and how many did not. -/
def gather (n : Nat) : List Nat → Nat × Nat
  | [] => (n, 0)
  | d :: ds => if n * 10 + d ≤ wordMax then gather (n * 10 + d) ds else (n, ds.length + 1)

/-- Digits gathered behind the point: those that fit, and how many these are. -/
def gatherFraction (n taken : Nat) : List Nat → Nat × Nat
  | [] => (n, taken)
  | d :: ds => if n * 10 + d ≤ wordMax then gatherFraction (n * 10 + d) (taken + 1) ds else (n, taken)

/-- The double nearest to a power of ten. -/
def power (k : Nat) : Option Binary64 := Binary64.ofNat false (tenTo k)

/-- `x · 10^e`, by steps of at most `10^308`; `none` beyond every double. -/
def scaled (x : Binary64) : Nat → Int → Option Binary64
  | 0, _ => some x
  | fuel + 1, e =>
    if e.natAbs ≤ 308 then do
      let p ← power e.natAbs
      if 0 ≤ e then x.mul p else x.div p
    else if x.isZero then some x
    else if 0 ≤ e then none
    else do
      let p ← power 308
      let y ← x.div p
      scaled y fuel (e + 308)

/-- The double of gathered digits and an exponent; dividing thrice leaves nothing of any of them. -/
def double (negative : Bool) (n : Nat) (e : Int) : Option Binary64 := do
  let x ← Binary64.ofNat false n
  let y ← scaled x 5 e
  return if negative then y.negate else y

/-- Exponents are counted in 32 bits. -/
def exponentMax : Nat := twoTo 31 - 1

/-- An exponent, if it fits its 32 bits. -/
def exponent? (n : Nat) : List Nat → Option Nat
  | [] => some n
  | d :: ds => if n * 10 + d ≤ exponentMax then exponent? (n * 10 + d) ds else none

/-- How many digits of an exponent are read until it outgrows its 32 bits. -/
def digitsRead (n : Nat) : List Nat → Nat
  | [] => 0
  | d :: ds => if n * 10 + d ≤ exponentMax then digitsRead (n * 10 + d) ds + 1 else 1

/-- Keeps an exponent within its 32 bits. -/
def saturate (e : Int) : Int := max (-(twoTo 31 : Int)) (min (twoTo 31 - 1 : Nat) e)

/-- A number without point and exponent. -/
def whole (negative : Bool) (n : Nat) : Option Number :=
  if !negative then Number.ofInt? n
  else if n == 0 || twoTo 63 < n then do
    let x ← Binary64.ofNat true n
    return .float x
  else Number.ofInt? (-n)

/-- The number of whole digits, digits behind a point and an exponent, `true` for minus; none if its
    range is left. -/
def number? (negative : Bool) (whole fraction : List Nat) (exponent : Option (Bool × List Nat)) :
    Option Number :=
  let front := gather 0 whole
  let all := gatherFraction front.1 0 fraction
  let base : Int := (front.2 : Int) - all.2
  match exponent with
  | some (down, ds) => match exponent? 0 ds with
    | some e => (double negative all.1 (saturate (if down then base - e else base + e))).map .float
    | none => if all.1 != 0 && !down then none else some (.float (.zero negative))
  | none =>
    if fraction.isEmpty && front.2 == 0 then Numeral.whole negative front.1
    else (double negative all.1 base).map .float

/-- The parts of a numeral. -/
structure Parts where
  negative : Bool
  whole : List Nat
  fraction : List Nat
  /-- Whether the exponent is negative, where its digits start, and the digits. -/
  exponent : Option (Bool × Spot × List Nat)

/-- Where the range is left: within the exponent, or at the end of the numeral. -/
def Parts.limit (p : Parts) (stop : Spot) : Spot := match p.exponent with
  | some (_, s, ds) => match exponent? 0 ds with
    | some _ => stop
    | none => ⟨s.line, s.column + digitsRead 0 ds⟩
  | none => stop

/-- The number, or where its range was left. -/
def Parts.value (p : Parts) (stop : Spot) : Except Fault Number :=
  match number? p.negative p.whole p.fraction (p.exponent.map fun e => (e.1, e.2.2)) with
  | some n => .ok n
  | none => .error ⟨.numberOutOfRange, some (p.limit stop)⟩

/-- Reads an exponent behind its letter, and the number with it. -/
def readExponent (p : Parts) (c : Cursor) : Scan Number :=
  let signed : Bool × Cursor := match c.rest with
    | 43 :: rest => (false, ⟨c.spot.next 43, rest⟩)
    | 45 :: rest => (true, ⟨c.spot.next 45, rest⟩)
    | _ => (false, c)
  match signed.2.rest with
  | [] => ⟨.error (signed.2.fault .endInValue), some (signed.2.fault .invalidNumber), signed.2⟩
  | b :: rest => match digit? b with
    | none => .stop (signed.2.peekFault .invalidNumber) ⟨signed.2.peek, rest⟩
    | some _ =>
      let ds := digits signed.2.spot signed.2.rest
      ⟨{ p with exponent := some (signed.1, signed.2.spot, ds.1) }.value ds.2.spot, none, ds.2⟩

/-- Whether the byte opens an exponent. -/
def isExponentMark (b : UInt8) : Bool := b == 101 || b == 69

/-- Reads what may follow the digits behind the point. -/
def readTail (p : Parts) (c : Cursor) : Scan Number := match c.rest with
  | b :: rest =>
    if isExponentMark b then readExponent p ⟨c.spot.next b, rest⟩ else ⟨p.value c.spot, none, c⟩
  | [] => ⟨p.value c.spot, none, c⟩

/-- Reads what may follow the whole digits. -/
def readFraction (p : Parts) (c : Cursor) : Scan Number := match c.rest with
  | 46 :: rest =>
    let ds := digits (c.spot.next 46) rest
    if ds.1.isEmpty then
      let here := ds.2
      let cause := if here.rest.isEmpty then Cause.endInValue else .invalidNumber
      ⟨.error (here.peekFault cause), some (here.peekFault .invalidNumber), here⟩
    else readTail { p with fraction := ds.1 } ds.2
  | _ => readTail p c

/-- Reads a number behind its sign. -/
def read (negative : Bool) (c : Cursor) : Scan Number := match c.rest with
  | [] => ⟨.error (c.fault .endInValue), some (c.fault .invalidNumber), c⟩
  | b :: rest => match digit? b with
    | none => .stop (c.peekFault .invalidNumber) ⟨c.peek, rest⟩
    | some 0 =>
      let next : Cursor := ⟨c.peek, rest⟩
      match rest with
      | b1 :: _ =>
        if (digit? b1).isSome then .stop (next.peekFault .invalidNumber) next
        else readFraction ⟨negative, [0], [], none⟩ next
      | [] => readFraction ⟨negative, [0], [], none⟩ next
    | some _ =>
      let ds := digits c.spot c.rest
      readFraction ⟨negative, ds.1, [], none⟩ ds.2

end Courier.Json.Numeral
