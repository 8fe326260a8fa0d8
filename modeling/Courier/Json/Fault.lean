import Courier.Json.Basic
import Courier.Text.Quoted

/-! What can be wrong with a JSON text, or with a value where another shape is expected.

    A fault in a text names its line and column: the column counts the bytes of the line read so far.
    A fault found in a value that is already in memory has no place. -/

namespace Courier.Json

/-- Lines from one, and bytes read of the current line. -/
structure Spot where
  line : Nat
  column : Nat
deriving DecidableEq, Repr

/-- A place in a text, or none for a value in memory. -/
abbrev Mark := Option Spot

/-- What was found where something else was expected. -/
inductive Found where
  | bool (value : Bool)
  | number (value : Number)
  | string (value : String)
  | null
  | sequence
  | map
deriving DecidableEq

/-- Why a text or a value was refused. -/
inductive Cause where
  | endInValue
  | endInList
  | endInObject
  | endInString
  | expectedColon
  | expectedListCommaOrEnd
  | expectedObjectCommaOrEnd
  | expectedIdentifier
  | expectedValue
  | invalidEscape
  | invalidNumber
  | numberOutOfRange
  | invalidCodePoint
  | controlInString
  | keyNotString
  | loneSurrogate
  | trailingComma
  | trailingCharacters
  | unfinishedEscape
  | tooDeep
  | invalidType (found : Found) (expected : String)
  | invalidValue (found : Found) (expected : String)
  | invalidLength (count : Nat) (expected : String)
  | missingField (name : String)
  | duplicateField (name : String)
  | unknownVariant (name : String) (known : List String)
deriving DecidableEq

/-- A cause and where it was met. -/
structure Fault where
  cause : Cause
  place : Mark
deriving DecidableEq

/-- What was found, in words. -/
def Found.text : Found → String
  | .bool true => "boolean `true`"
  | .bool false => "boolean `false`"
  | .number (.whole n _) => s!"integer `{n}`"
  | .number (.float x) => s!"floating point `{x.text}`"
  | .string s => s!"string {Text.quoted s}"
  | .null => "null"
  | .sequence => "sequence"
  | .map => "map"

/-- The known names, each in ticks: one, one or another, or a list. -/
def choices (names : List String) : String :=
  let ticked := names.map fun n => s!"`{n}`"
  match ticked with
  | [] => "there are no variants"
  | [one] => s!"expected {one}"
  | [one, two] => s!"expected {one} or {two}"
  | many => "expected one of " ++ String.intercalate ", " many

/-- The cause in words. -/
def Cause.text : Cause → String
  | .endInValue => "EOF while parsing a value"
  | .endInList => "EOF while parsing a list"
  | .endInObject => "EOF while parsing an object"
  | .endInString => "EOF while parsing a string"
  | .expectedColon => "expected `:`"
  | .expectedListCommaOrEnd => "expected `,` or `]`"
  | .expectedObjectCommaOrEnd => "expected `,` or `\x7d`"
  | .expectedIdentifier => "expected ident"
  | .expectedValue => "expected value"
  | .invalidEscape => "invalid escape"
  | .invalidNumber => "invalid number"
  | .numberOutOfRange => "number out of range"
  | .invalidCodePoint => "invalid unicode code point"
  | .controlInString => "control character (\\u0000-\\u001F) found while parsing a string"
  | .keyNotString => "key must be a string"
  | .loneSurrogate => "lone leading surrogate in hex escape"
  | .trailingComma => "trailing comma"
  | .trailingCharacters => "trailing characters"
  | .unfinishedEscape => "unexpected end of hex escape"
  | .tooDeep => "recursion limit exceeded"
  | .invalidType found expected => s!"invalid type: {found.text}, expected {expected}"
  | .invalidValue found expected => s!"invalid value: {found.text}, expected {expected}"
  | .invalidLength count expected => s!"invalid length {count}, expected {expected}"
  | .missingField name => s!"missing field `{name}`"
  | .duplicateField name => s!"duplicate field `{name}`"
  | .unknownVariant name known => s!"unknown variant `{name}`, {choices known}"

/-- The fault in words, with its place if it has one. -/
def Fault.text (f : Fault) : String := match f.place with
  | none => f.cause.text
  | some spot => s!"{f.cause.text} at line {spot.line} column {spot.column}"

end Courier.Json
