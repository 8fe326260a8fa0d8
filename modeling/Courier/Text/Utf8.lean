/-! Text as bytes and back.

    A character takes one to four bytes. `charBytes` writes one; `segments` reads a byte string from
    the left and reports what each stretch is: a character, or bytes that begin none. Strict decoding
    stops at the first such stretch, lenient decoding puts U+FFFD in its place. -/

namespace Courier

/-- Raw octets, as they travel in bodies and header values. -/
abbrev Bytes := List UInt8

namespace Text

/-- The bytes of one character. -/
def charBytes (c : Char) : Bytes :=
  let n := c.toNat
  if n < 0x80 then [n.toUInt8]
  else if n < 0x800 then [(0xC0 + n / 64).toUInt8, (0x80 + n % 64).toUInt8]
  else if n < 0x10000 then
    [(0xE0 + n / 4096).toUInt8, (0x80 + n / 64 % 64).toUInt8, (0x80 + n % 64).toUInt8]
  else
    [(0xF0 + n / 262144).toUInt8, (0x80 + n / 4096 % 64).toUInt8,
      (0x80 + n / 64 % 64).toUInt8, (0x80 + n % 64).toUInt8]

/-- The bytes of a list of characters. -/
def charsBytes (cs : List Char) : Bytes := cs.flatMap charBytes

/-- The bytes of a string. -/
def bytes (s : String) : Bytes := charsBytes s.toList

/-- Bytes of ASCII text, one per character. -/
def ascii (s : String) : Bytes := s.toList.map fun c => c.toNat.toUInt8

/-- A byte that continues a character. -/
def isContinuation (b : UInt8) : Bool := 0x80 ≤ b && b ≤ 0xBF

/-- What may follow the lead byte `b` at once: the range excludes overlong forms, surrogates and
    values above U+10FFFF. `none`: `b` leads nothing. The number counts the bytes that follow. -/
def follow (b : UInt8) : Option (Nat × UInt8 × UInt8) :=
  if b < 0xC2 then none
  else if b < 0xE0 then some (1, 0x80, 0xBF)
  else if b == 0xE0 then some (2, 0xA0, 0xBF)
  else if b == 0xED then some (2, 0x80, 0x9F)
  else if b < 0xF0 then some (2, 0x80, 0xBF)
  else if b == 0xF0 then some (3, 0x90, 0xBF)
  else if b < 0xF4 then some (3, 0x80, 0xBF)
  else if b == 0xF4 then some (3, 0x80, 0x8F)
  else none

/-- A stretch of a byte string: one character, or bytes that begin none. -/
inductive Segment where
  | char (c : Char) (size : Nat)
  | broken (size : Nat)
deriving DecidableEq, Repr

/-- The low six bits of a continuation byte. -/
def low6 (b : UInt8) : Nat := b.toNat % 64

/-- Cuts a byte string into characters and broken stretches, each as long as it can be. -/
def segments : Bytes → List Segment
  | [] => []
  | b :: rest =>
    if b < 0x80 then .char (Char.ofNat b.toNat) 1 :: segments rest
    else match follow b with
      | none => .broken 1 :: segments rest
      | some (more, lo, hi) =>
        match rest with
        | [] => [.broken 1]
        | b1 :: rest1 =>
          if b1 < lo || hi < b1 then .broken 1 :: segments (b1 :: rest1)
          else if more == 1 then
            .char (Char.ofNat ((b.toNat - 0xC0) * 64 + low6 b1)) 2 :: segments rest1
          else match rest1 with
            | [] => [.broken 2]
            | b2 :: rest2 =>
              if !isContinuation b2 then .broken 2 :: segments (b2 :: rest2)
              else if more == 2 then
                .char (Char.ofNat ((b.toNat - 0xE0) * 4096 + low6 b1 * 64 + low6 b2)) 3 ::
                  segments rest2
              else match rest2 with
                | [] => [.broken 3]
                | b3 :: rest3 =>
                  if !isContinuation b3 then .broken 3 :: segments (b3 :: rest3)
                  else
                    .char (Char.ofNat ((b.toNat - 0xF0) * 262144 + low6 b1 * 4096 + low6 b2 * 64
                      + low6 b3)) 4 :: segments rest3
termination_by structural bs => bs

/-- The characters of the segments, or the number of bytes before the first broken one. -/
def strict : List Segment → Except Nat (List Char)
  | [] => .ok []
  | .char c n :: rest => match strict rest with
    | .ok cs => .ok (c :: cs)
    | .error k => .error (n + k)
  | .broken _ :: _ => .error 0

/-- Decodes a byte string; an error counts the bytes before the first one that is no text. -/
def decodeChars (bs : Bytes) : Except Nat (List Char) := strict (segments bs)

/-- The string a byte string encodes, if it encodes one. -/
def decode? (bs : Bytes) : Option String := match decodeChars bs with
  | .ok cs => some (String.ofList cs)
  | .error _ => none

/-- Decodes a byte string, each broken stretch as U+FFFD. -/
def decodeLossy (bs : Bytes) : String :=
  String.ofList ((segments bs).map fun
    | .char c _ => c
    | .broken _ => Char.ofNat 0xFFFD)

end Text
end Courier
