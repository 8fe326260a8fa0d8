import Courier.Text.Letter
import Courier.Text.Quoted
import Courier.Text.Utf8

/-! Header fields.

    Names are tokens without case. A name may have several values; they stay together, in the order in
    which they were added, and names keep the order in which they were first added. A value may be
    marked sensitive: it is sent, but never shown. -/

namespace Courier.Http

/-- The name of a header field, in small letters. -/
structure HeaderName where
  text : String
deriving DecidableEq, Repr

/-- A value of a header field. -/
structure HeaderValue where
  bytes : Bytes
  sensitive : Bool
deriving DecidableEq

/-- Header fields: each name once, with its values. -/
abbrev Headers := List (HeaderName × List HeaderValue)

/-- Whether a byte may stand in a name. -/
def isTokenByte (b : UInt8) : Bool :=
  (48 ≤ b && b ≤ 57) || (65 ≤ b && b ≤ 90) || (97 ≤ b && b ≤ 122) ||
    (Text.ascii "!#$%&'*+-.^_`|~").contains b

/-- Names are at most this long. -/
def maxNameLength : Nat := 65535

/-- A name, if the text is one. -/
def HeaderName.ofText? (s : String) : Option HeaderName :=
  let bs := Text.bytes s
  if !bs.isEmpty && bs.length ≤ maxNameLength && bs.all isTokenByte then some ⟨Text.lowerAscii s⟩
  else none

/-- Whether a byte may stand in a value. -/
def isValueByte (b : UInt8) : Bool := (32 ≤ b && b != 127) || b == 9

/-- A value, if the bytes are one. -/
def HeaderValue.ofBytes? (bs : Bytes) : Option HeaderValue :=
  if bs.all isValueByte then some ⟨bs, false⟩ else none

/-- A value, if the text is one. -/
def HeaderValue.ofText? (s : String) : Option HeaderValue := HeaderValue.ofBytes? (Text.bytes s)

/-- Whether a byte is printable ASCII or a tab. -/
def isPlainByte (b : UInt8) : Bool := (32 ≤ b && b < 127) || b == 9

/-- The value as text, if all of it is printable ASCII. -/
def HeaderValue.text? (v : HeaderValue) : Option String :=
  if v.bytes.all isPlainByte then some (String.ofList (v.bytes.map fun b => Char.ofNat b.toNat)) else none

namespace Headers

/-- All values of a name. -/
def values (name : HeaderName) : Headers → List HeaderValue
  | [] => []
  | (n, vs) :: rest => if n = name then vs else values name rest

/-- The first value of a name. -/
def get? (name : HeaderName) (hs : Headers) : Option HeaderValue := (values name hs).head?

/-- Whether the name has a value. -/
def contains (name : HeaderName) (hs : Headers) : Bool := hs.any fun h => h.1 = name

/-- Adds a value behind those the name has. -/
def append (name : HeaderName) (value : HeaderValue) : Headers → Headers
  | [] => [(name, [value])]
  | (n, vs) :: rest => if n = name then (n, vs ++ [value]) :: rest else (n, vs) :: append name value rest

/-- Gives a name one value in place of those it has. -/
def insert (name : HeaderName) (value : HeaderValue) : Headers → Headers
  | [] => [(name, [value])]
  | (n, vs) :: rest => if n = name then (n, [value]) :: rest else (n, vs) :: insert name value rest

/-- Takes a name away with all its values. -/
def remove (name : HeaderName) (hs : Headers) : Headers := hs.filter fun h => h.1 ≠ name

/-- The fields one by one, the values of a name together. -/
def fields (hs : Headers) : List (HeaderName × HeaderValue) := hs.flatMap fun h => h.2.map fun v => (h.1, v)

end Headers

/-- A value as diagnostics show it: bytes that are not printable ASCII by their number. -/
def HeaderValue.quoted (v : HeaderValue) : String :=
  if v.sensitive then "Sensitive"
  else
    let one (b : UInt8) : List Char :=
      if b == 34 then ['\\', '"']
      else if isPlainByte b then [Char.ofNat b.toNat]
      else '\\' :: 'x' :: Text.hexChars b.toNat
    String.ofList ('"' :: v.bytes.flatMap one ++ ['"'])

/-- Header fields as diagnostics show them. -/
def Headers.quoted (hs : Headers) : String :=
  let one (h : HeaderName × HeaderValue) : String := Text.quoted h.1.text ++ ": " ++ h.2.quoted
  "\x7b" ++ String.intercalate ", " ((Headers.fields hs).map one) ++ "\x7d"

end Courier.Http
