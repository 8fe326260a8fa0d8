/-! Dates of HTTP header fields.

    Three forms are read: `Sun, 06 Nov 1994 08:49:37 GMT`, `Sunday, 06-Nov-94 08:49:37 GMT` and
    `Sun Nov  6 08:49:37 1994`. Each must name a day that exists from 1970 to 9999, with its weekday. -/

namespace Courier.Http

/-- A moment to the second, as a header field names it; weekdays count from Monday as 1. -/
structure Date where
  year : Nat
  month : Nat
  day : Nat
  hour : Nat
  minute : Nat
  second : Nat
  weekday : Nat
deriving DecidableEq, Repr

namespace Date

/-- The short names of the months. -/
def months : List (List Char) :=
  ["Jan", "Feb", "Mar", "Apr", "May", "Jun", "Jul", "Aug", "Sep", "Oct", "Nov", "Dec"].map String.toList

/-- The names of the weekdays. -/
def weekdays : List (List Char) :=
  ["Monday", "Tuesday", "Wednesday", "Thursday", "Friday", "Saturday", "Sunday"].map String.toList

/-- The place of a name in a list, counted from one. -/
def place? (names : List (List Char)) (name : List Char) : Option Nat :=
  (names.findIdx? (· == name)).map (· + 1)

/-- A month by its short name. -/
def month? (name : List Char) : Option Nat := place? months name

/-- A weekday by the first three letters of its name. -/
def shortWeekday? (name : List Char) : Option Nat := place? (weekdays.map (·.take 3)) name

/-- The value of a digit. -/
def digit? (c : Char) : Option Nat := if c.isDigit then some (c.toNat - 48) else none

/-- The number that digits make. -/
def number? (cs : List Char) : Option Nat :=
  cs.foldlM (fun n c => (digit? c).map (n * 10 + ·)) 0

/-- The characters from one place up to another. -/
def slice (cs : List Char) (start stop : Nat) : List Char := (cs.drop start).take (stop - start)

/-- Reads `Sun, 06 Nov 1994 08:49:37 GMT`. -/
def fixed? (cs : List Char) : Option Date := do
  if cs.length != 29 || slice cs 25 29 != [' ', 'G', 'M', 'T'] || slice cs 16 17 != [' ']
      || slice cs 19 20 != [':'] || slice cs 22 23 != [':'] then failure
  let second ← number? (slice cs 23 25)
  let minute ← number? (slice cs 20 22)
  let hour ← number? (slice cs 17 19)
  let day ← number? (slice cs 5 7)
  if slice cs 7 8 != [' '] || slice cs 11 12 != [' '] then failure
  let month ← month? (slice cs 8 11)
  let year ← number? (slice cs 12 16)
  if slice cs 3 5 != [',', ' '] then failure
  let weekday ← shortWeekday? (slice cs 0 3)
  return ⟨year, month, day, hour, minute, second, weekday⟩

/-- The weekday whose full name opens the text, and what follows the comma and the blank. -/
def fullWeekday? (cs : List Char) : Option (Nat × List Char) :=
  (weekdays.zipIdx.find? fun w => (w.1 ++ [',', ' ']).isPrefixOf cs).map fun w =>
    (w.2 + 1, cs.drop (w.1.length + 2))

/-- Reads `Sunday, 06-Nov-94 08:49:37 GMT`; years below 70 are of the 21st century. -/
def dashed? (text : List Char) : Option Date := do
  let (weekday, cs) ← fullWeekday? text
  if cs.length != 22 || slice cs 12 13 != [':'] || slice cs 15 16 != [':']
      || slice cs 18 22 != [' ', 'G', 'M', 'T'] then failure
  let short ← number? (slice cs 7 9)
  let second ← number? (slice cs 16 18)
  let minute ← number? (slice cs 13 15)
  let hour ← number? (slice cs 10 12)
  let day ← number? (slice cs 0 2)
  if slice cs 2 3 != ['-'] || slice cs 6 7 != ['-'] then failure
  let month ← month? (slice cs 3 6)
  return ⟨if short < 70 then short + 2000 else short + 1900, month, day, hour, minute, second, weekday⟩

/-- Reads `Sun Nov  6 08:49:37 1994`. -/
def spaced? (cs : List Char) : Option Date := do
  if cs.length != 24 || slice cs 10 11 != [' '] || slice cs 13 14 != [':'] || slice cs 16 17 != [':']
      || slice cs 19 20 != [' '] then failure
  let second ← number? (slice cs 17 19)
  let minute ← number? (slice cs 14 16)
  let hour ← number? (slice cs 11 13)
  let day ← number? (if slice cs 8 9 == [' '] then slice cs 9 10 else slice cs 8 10)
  if slice cs 7 8 != [' '] || slice cs 3 4 != [' '] then failure
  let month ← month? (slice cs 4 7)
  let year ← number? (slice cs 20 24)
  let weekday ← shortWeekday? (slice cs 0 3)
  return ⟨year, month, day, hour, minute, second, weekday⟩

/-- Whether the year has a 29th of February. -/
def isLeap (year : Nat) : Bool := year % 4 == 0 && (year % 100 != 0 || year % 400 == 0)

/-- The days of the months of a year. -/
def monthLengths (year : Nat) : List Nat :=
  [31, if isLeap year then 29 else 28, 31, 30, 31, 30, 31, 31, 30, 31, 30, 31]

/-- The days from the start of the calendar to the first of January. -/
def daysToYear (year : Nat) : Nat :=
  let y := year - 1
  y * 365 + y / 4 - y / 100 + y / 400

/-- The days from 1970 on to the date. -/
def days (d : Date) : Nat :=
  daysToYear d.year - daysToYear 1970 + ((monthLengths d.year).take (d.month - 1)).foldl (· + ·) 0
    + (d.day - 1)

/-- The seconds from 1970 on to the date. -/
def seconds (d : Date) : Nat := ((d.days * 24 + d.hour) * 60 + d.minute) * 60 + d.second

/-- Whether the day exists and is such a weekday; the first day of 1970 was a Thursday. -/
def isReal (d : Date) : Bool :=
  d.second < 60 && d.minute < 60 && d.hour < 24 && 1970 ≤ d.year && d.year ≤ 9999 && 1 ≤ d.day
    && d.day ≤ ((monthLengths d.year)[d.month - 1]?).getD 0 && (d.days + 3) % 7 + 1 == d.weekday

/-- Reads a date in one of the three forms. -/
def ofText? (s : String) : Option Date := do
  let cs := s.toList
  if !cs.all fun c => c.toNat < 128 then failure
  let d ← (fixed? cs).orElse fun _ => (dashed? cs).orElse fun _ => spaced? cs
  if d.isReal then some d else none

end Date
end Courier.Http
