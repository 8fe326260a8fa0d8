/-! Labels of any letters in ASCII letters and digits.

    The ASCII characters come first, then, for each other character in the order of code points, how far
    the insertion point moves: a number of variable length in base 36 whose thresholds adapt to the
    distances seen so far. -/

namespace Courier.Url.Punycode

/-- The character of a digit below 36. -/
def digitChar (d : Nat) : Char := if d < 26 then Char.ofNat (97 + d) else Char.ofNat (22 + d)

/-- The digit of a character. -/
def digit? (c : Char) : Option Nat :=
  if 'a' ≤ c && c ≤ 'z' then some (c.toNat - 97)
  else if 'A' ≤ c && c ≤ 'Z' then some (c.toNat - 65)
  else if '0' ≤ c && c ≤ '9' then some (c.toNat - 22)
  else none

/-- The threshold at position `k`: from 1 to 26. -/
def threshold (k bias : Nat) : Nat := max 1 (min 26 (k - bias))

/-- Shrinks a distance to the range of one position, counting positions. -/
def shrink (delta k : Nat) : Nat :=
  if 455 < delta then shrink (delta / 35) (k + 36) else k + 36 * delta / (delta + 38)
termination_by delta
decreasing_by exact Nat.div_lt_self (by omega) (by omega)

/-- The bias after a distance among `count` characters. -/
def adapt (delta count : Nat) (isFirst : Bool) : Nat :=
  let halved := if isFirst then delta / 700 else delta / 2
  shrink (halved + halved / count) 0

/-- The digits of a distance. -/
def encodeNumber (bias k q : Nat) : List Char :=
  if q < threshold k bias then [digitChar q]
  else
    digitChar (threshold k bias + (q - threshold k bias) % (36 - threshold k bias)) ::
      encodeNumber bias (k + 36) ((q - threshold k bias) / (36 - threshold k bias))
termination_by q
decreasing_by
  have h : 1 ≤ threshold k bias := Nat.le_max_left _ _
  have := Nat.div_le_self (q - threshold k bias) (36 - threshold k bias)
  omega

/-- A label that is being encoded. -/
structure Encoding where
  out : List Char
  delta : Nat
  bias : Nat
  done : Nat

/-- Passes one character while `m` is being inserted. -/
def Encoding.step (basic m : Nat) (e : Encoding) (c : Char) : Encoding :=
  if c.toNat < m then { e with delta := e.delta + 1 }
  else if c.toNat == m then
    ⟨e.out ++ encodeNumber e.bias 36 e.delta, 0, adapt e.delta (e.done + 1) (e.done == basic), e.done + 1⟩
  else e

/-- Inserts the characters above ASCII, in order; `n` is the least one that may come. -/
def encodeAbove (input : List Char) (basic : Nat) : List Nat → Nat → Encoding → Encoding
  | [], _, e => e
  | m :: ms, n, e =>
    let passed := input.foldl (Encoding.step basic m) { e with delta := e.delta + (m - n) * (e.done + 1) }
    encodeAbove input basic ms (m + 1) { passed with delta := passed.delta + 1 }

/-- Puts a number into an ascending list, once. -/
def insertOnce (n : Nat) : List Nat → List Nat
  | [] => [n]
  | m :: ms => if n < m then n :: m :: ms else if n == m then m :: ms else m :: insertOnce n ms

/-- Encodes a label. -/
def encode (input : List Char) : List Char :=
  let basic := input.filter fun c => c.toNat < 128
  let above := (input.filter fun c => 128 ≤ c.toNat).foldr (fun c ms => insertOnce c.toNat ms) []
  let start := if basic.isEmpty then [] else basic ++ ['-']
  (encodeAbove input basic.length above 128 ⟨start, 0, 72, basic.length⟩).out

/-- A label that is being decoded: the number being read started at `before`. -/
structure Decoding where
  out : List Char
  n : Nat
  index : Nat
  bias : Nat
  before : Nat
  weight : Nat
  k : Nat

/-- A new number starts. -/
def Decoding.start (out : List Char) : Decoding := ⟨out, 128, 0, 72, 0, 1, 36⟩

/-- Puts an item at a place. -/
def insertAt (c : Char) : Nat → List Char → List Char
  | 0, cs => c :: cs
  | _, [] => [c]
  | i + 1, x :: xs => x :: insertAt c i xs

/-- Takes one digit. -/
def Decoding.step (d : Decoding) (c : Char) : Option Decoding := do
  let digit ← digit? c
  let index := d.index + digit * d.weight
  let t := threshold d.k d.bias
  if digit < t then
    let size := d.out.length + 1
    let n := d.n + index / size
    if 0x10FFFF < n || (0xD800 ≤ n && n ≤ 0xDFFF) then failure
    let position := index % size
    return ⟨insertAt (Char.ofNat n) position d.out, n, position + 1, adapt (index - d.before) size (d.before == 0),
      position + 1, 1, 36⟩
  else return { d with index := index, weight := d.weight * (36 - t), k := d.k + 36 }

/-- Decodes a label. -/
def decode (input : List Char) : Option (List Char) := do
  let parts := (input.reverse.span (· != '-'))
  let basic := (parts.2.drop 1).reverse
  let digits := parts.1.reverse
  let d ← digits.foldlM Decoding.step (.start basic)
  if d.k == 36 && d.weight == 1 then return d.out else failure

end Courier.Url.Punycode
