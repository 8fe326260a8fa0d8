import Courier.Json.Cursor

/-! JSON strings.

    A code point above U+FFFF may be escaped as a pair of surrogates, the high one first. Whether the
    octets of a string are text is asked at its end, of all of them, escapes resolved. Skipping a string
    asks for its quotes and the form of its escapes only. -/

namespace Courier.Json

/-- A string that is being read: its octets so far, the last first, a high surrogate that waits for its
    low one, and the first fault of an escape. -/
structure Quote where
  octets : Bytes
  high : Option Nat
  bad : Option Fault

namespace Quote

/-- Remembers the first fault. -/
def refuse (q : Quote) (f : Fault) : Quote := { q with bad := q.bad.or (some f) }

/-- Adds an octet. -/
def addOctet (q : Quote) (b : UInt8) : Quote := { q with octets := b :: q.octets }

/-- Adds a character that was escaped. -/
def push (q : Quote) (c : Char) : Quote := { q with octets := (Text.charBytes c).reverse ++ q.octets }

/-- A high surrogate must be followed by another escape. -/
def expectEscape (q : Quote) (b : UInt8) (next : Spot) : Quote :=
  if q.high.isSome && b != 92 then { q.refuse ⟨.unfinishedEscape, some next⟩ with high := none } else q

/-- A high surrogate must be followed by a numbered escape. -/
def expectNumbered (q : Quote) (next : Spot) : Quote :=
  if q.high.isSome then { q.refuse ⟨.unfinishedEscape, some next⟩ with high := none } else q

/-- Adds an escaped code unit. -/
def pushUnit (q : Quote) (n : Nat) (next : Spot) : Quote := match q.high with
  | some h =>
    if 0xDC00 ≤ n && n ≤ 0xDFFF then
      { q with high := none }.push (Char.ofNat (0x10000 + (h - 0xD800) * 1024 + (n - 0xDC00)))
    else { q.refuse ⟨.loneSurrogate, some next⟩ with high := none }
  | none =>
    if 0xDC00 ≤ n && n ≤ 0xDFFF then q.refuse ⟨.loneSurrogate, some next⟩
    else if 0xD800 ≤ n && n ≤ 0xDBFF then { q with high := some n }
    else q.push (Char.ofNat n)

/-- The text of a string that ends here. The place of an octet that is no text is counted back from the
    end, as if every octet had been written as itself. -/
def text (q : Quote) (after : Spot) : Except Fault String := match q.bad with
  | some f => .error f
  | none => match Text.decodeChars q.octets.reverse with
    | .ok cs => .ok (String.ofList cs)
    | .error valid =>
      .error ⟨.invalidCodePoint, some ⟨after.line, after.column - (q.octets.length - valid)⟩⟩

/-- The scan of a string that ends here. -/
def finish (q : Quote) (after : Cursor) : Scan String := ⟨q.text after.spot, none, after⟩

/-- The scan of a string that has no end. -/
def abandon (q : Quote) (read skip : Fault) (after : Cursor) : Scan String :=
  ⟨.error (q.bad.getD read), some skip, after⟩

end Quote

/-- The character of a one-letter escape. -/
def escape? (b : UInt8) : Option Char :=
  if b == 34 then some '"'
  else if b == 92 then some '\\'
  else if b == 47 then some '/'
  else if b == 98 then some (Char.ofNat 8)
  else if b == 102 then some (Char.ofNat 12)
  else if b == 110 then some '\n'
  else if b == 114 then some '\r'
  else if b == 116 then some '\t'
  else none

/-- The value of a hexadecimal digit. -/
def hexDigit? (b : UInt8) : Option Nat :=
  if 48 ≤ b && b ≤ 57 then some (b.toNat - 48)
  else if 97 ≤ b && b ≤ 102 then some (b.toNat - 87)
  else if 65 ≤ b && b ≤ 70 then some (b.toNat - 55)
  else none

/-- The number of four hexadecimal digits. -/
def hex4? (a b c d : UInt8) : Option Nat := do
  let a ← hexDigit? a
  let b ← hexDigit? b
  let c ← hexDigit? c
  let d ← hexDigit? d
  return ((a * 16 + b) * 16 + c) * 16 + d

/-- Reads a string behind its opening quote. -/
def scanString (q : Quote) (s : Spot) : Bytes → Scan String
  | [] =>
    let f : Fault := ⟨.endInString, some s⟩
    q.abandon f f ⟨s, []⟩
  | b :: rest =>
    let s1 := s.next b
    if b == 34 then (q.expectEscape b s1).finish ⟨s1, rest⟩
    else if b == 92 then
      match rest with
      | [] =>
        let f : Fault := ⟨.endInString, some s1⟩
        q.abandon f f ⟨s1, []⟩
      | e :: rest1 =>
        let s2 := s1.next e
        if e == 117 then match rest1 with
          | h1 :: h2 :: h3 :: h4 :: rest2 =>
            let s3 := s2.advance [h1, h2, h3, h4]
            match hex4? h1 h2 h3 h4 with
            | some n => scanString (q.pushUnit n s3) s3 rest2
            | none =>
              let f : Fault := ⟨.invalidEscape, some s3⟩
              q.abandon f f ⟨s3, rest2⟩
          | short =>
            let f : Fault := ⟨.endInString, some (s2.advance short)⟩
            q.abandon f f ⟨s2.advance short, []⟩
        else
          let q1 := q.expectNumbered s2
          match escape? e with
          | some c => scanString (q1.push c) s2 rest1
          | none =>
            let f : Fault := ⟨.invalidEscape, some s2⟩
            q1.abandon f f ⟨s2, rest1⟩
    else if b < 32 then
      (q.expectEscape b s1).abandon ⟨.controlInString, some s1⟩ ⟨.controlInString, some s⟩ ⟨s1, rest⟩
    else scanString ((q.expectEscape b s1).addOctet b) s1 rest
termination_by structural bs => bs

/-- Reads a string behind its opening quote. -/
def Cursor.string (c : Cursor) : Scan String := scanString ⟨[], none, none⟩ c.spot c.rest

end Courier.Json
