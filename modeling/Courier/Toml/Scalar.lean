import Courier.Json.Basic
import Courier.Power
import Courier.Toml.Text

/-! Numbers, dates and times of TOML.

    JSON has no dates: one becomes an object whose only member, `$__toml_private_datetime`, is its text.
    It has no endless numbers either: they become null. -/

namespace Courier.Toml

open Courier.Text (Piece)

/-- A number of two digits. -/
def twoDigits : Piece Nat := do
  let ds ← Piece.times 2 Char.isDigit
  return Text.numberOf 10 (ds.map fun c => c.toNat - 48)

/-- A number of two digits within bounds. -/
def twoDigitsIn (low high : Nat) : Piece Nat := do
  let n ← twoDigits
  if low ≤ n && n ≤ high then return n else failure

/-- A number written with at least so many digits. -/
def atLeast (width n : Nat) : String :=
  let ds := Nat.toDigits 10 n
  String.ofList (List.replicate (width - ds.length) '0' ++ ds)

/-- The number of days of a month. -/
def daysOf (year month : Nat) : Nat :=
  if month == 2 then if year % 4 == 0 && (year % 100 != 0 || year % 400 == 0) then 29 else 28
  else if month == 4 || month == 6 || month == 9 || month == 11 then 30
  else 31

/-- A day, in its one form. -/
def date : Piece String := do
  let ds ← Piece.times 4 Char.isDigit
  let year := Text.numberOf 10 (ds.map fun c => c.toNat - 48)
  Piece.exactly "-"
  let month ← twoDigitsIn 1 12
  Piece.exactly "-"
  let day ← twoDigitsIn 1 (daysOf year month)
  return atLeast 4 year ++ "-" ++ atLeast 2 month ++ "-" ++ atLeast 2 day

/-- Piece of a second: at most nine digits, without zeros at the end. -/
def secondPart : Piece String := do
  Piece.exactly "."
  let ds ← Piece.run Char.isDigit
  if ds.isEmpty then failure
  let kept := ((ds.take 9).reverse.dropWhile (· == '0')).reverse
  return if kept.isEmpty then "" else "." ++ String.ofList kept

/-- A time of day whose hour is at most `lastHour`, in its one form. -/
def time (lastHour : Nat) : Piece String := do
  let hour ← twoDigitsIn 0 lastHour
  Piece.exactly ":"
  let minute ← twoDigitsIn 0 59
  Piece.exactly ":"
  let second ← twoDigitsIn 0 60
  let rest ← Piece.optional secondPart
  return atLeast 2 hour ++ ":" ++ atLeast 2 minute ++ ":" ++ atLeast 2 second ++ rest.getD ""

/-- The distance of hours and minutes from the zero meridian as text. -/
def offsetText (isWest : Bool) (hours minutes : Nat) : String :=
  (if isWest && (hours != 0 || minutes != 0) then "-" else "+") ++ atLeast 2 hours ++ ":" ++ atLeast 2 minutes

/-- The distance from the zero meridian. -/
def offset : Piece String := do
  let mark ← Piece.one fun c => c == 'Z' || c == 'z' || c == '+' || c == '-'
  if mark == 'Z' || mark == 'z' then return "Z"
  let hours ← twoDigitsIn 0 23
  Piece.exactly ":"
  let minutes ← twoDigitsIn 0 59
  return offsetText (mark == '-') hours minutes

/-- A time behind a day, with its offset. -/
def timeOfDay : Piece String := do
  let _ ← Piece.one fun c => c == 'T' || c == 't' || c == ' '
  let t ← time 23
  let o ← Piece.optional offset
  return "T" ++ t ++ o.getD ""

/-- A day, a time, or both. -/
def moment : Piece String := (do
  let d ← date
  let t ← Piece.optional timeOfDay
  return d ++ t.getD "") <|> time 23

/-- The distance from the zero meridian in a moment that is quoted: up to a day, the minutes free. -/
def quotedOffset : Piece String := do
  let mark ← Piece.one fun c => c == 'Z' || c == 'z' || c == '+' || c == '-'
  if mark == 'Z' || mark == 'z' then return "Z"
  let hours ← twoDigits
  Piece.exactly ":"
  let minutes := hours * 60 + (← twoDigits)
  if 24 * 60 < minutes then failure
  return offsetText (mark == '-') (minutes / 60) (minutes % 60)

/-- A moment that is quoted; its hour may be 24. -/
def quotedMoment : Piece String := (do
  let d ← date
  let t ← Piece.optional do
    let _ ← Piece.one fun c => c == 'T' || c == 't' || c == ' '
    let t ← time 24
    let o ← Piece.optional quotedOffset
    return "T" ++ t ++ o.getD ""
  return d ++ t.getD "") <|> time 24

/-- The name of the only member of a moment. -/
def momentName : String := "$__toml_private_datetime"

/-- A moment as JSON. -/
def momentJson (text : String) : Json := .object [(momentName, .string text)]

/-- The moment that a text says. -/
def momentOf? (text : String) : Option Json := match quotedMoment text.toList with
  | some (said, []) => some (momentJson said)
  | _ => none

/-- Digits with single underscores between them, behind a first digit. -/
def moreDigits (test : Char → Bool) : List Char → List Char × List Char
  | '_' :: c :: cs =>
    if test c then
      let (ds, rest) := moreDigits test cs
      (c :: ds, rest)
    else ([], '_' :: c :: cs)
  | c :: cs =>
    if test c then
      let (ds, rest) := moreDigits test cs
      (c :: ds, rest)
    else ([], c :: cs)
  | [] => ([], [])

/-- Digits with single underscores between them. -/
def digits (test : Char → Bool) : Piece (List Char) := do
  let c ← Piece.one test
  let cs ← fun text => some (moreDigits test text)
  return c :: cs

/-- The digits of a whole number: a zero has none behind it. -/
def wholeDigits : Piece (List Char) := do
  match ← Piece.peek with
  | some '0' =>
    Piece.exactly "0"
    return ['0']
  | _ => digits Char.isDigit

/-- A sign; true if it is a minus. -/
def sign : Piece (Option Bool) := Piece.optional do
  let c ← Piece.one fun c => c == '+' || c == '-'
  return c == '-'

/-- The exponent of a number: its sign and its digits. -/
def exponent : Piece Int := do
  let _ ← Piece.one fun c => c == 'e' || c == 'E'
  let minus ← sign
  let ds ← digits Char.isDigit
  let n := Text.numberOf 10 (ds.map fun c => c.toNat - 48)
  return if minus.getD false then -(n : Int) else n

/-- A whole number of 64 bits with a sign. -/
def signedWord (n : Int) : Piece Json :=
  if -(twoTo 63 : Int) ≤ n && n < twoTo 63 then match Number.ofInt? n with
    | some v => return .number v
    | none => failure
  else failure

/-- A whole number to another base, behind its mark. -/
def basedWord (mark : String) (base : Nat) : Piece Json := do
  Piece.exactly mark
  let ds ← digits fun c => match Text.hexDigit? c with
    | some d => d < base
    | none => false
  signedWord (Text.numberOf base (ds.filterMap Text.hexDigit?))

/-- A number that no double holds. -/
def endless : Piece Json := do
  Piece.exactly "inf" <|> Piece.exactly "nan"
  return .null

/-- A whole number or a double. -/
def decimal (minus : Bool) : Piece Json := do
  let digit (c : Char) : Nat := c.toNat - 48
  let whole ← wholeDigits
  let fraction ← Piece.optional do
    Piece.exactly "."
    digits Char.isDigit
  let e ← Piece.optional exponent
  let ds := whole.map digit
  if fraction.isNone && e.isNone then
    let n : Int := Text.numberOf 10 ds
    signedWord (if minus then -n else n)
  else match Binary64.ofDigits minus ds ((fraction.getD []).map digit) (e.getD 0) with
    | some x => return .number (.float x)
    | none => if minus then return .null else failure

/-- A number. -/
def number : Piece Json :=
  (do
    let minus ← sign
    endless <|> decimal (minus.getD false))

/-- A number, a date or a time. -/
def numberOrMoment : Piece Json := (do
  let text ← moment
  return momentJson text)
  <|> basedWord "0x" 16 <|> basedWord "0o" 8 <|> basedWord "0b" 2 <|> number

end Courier.Toml
