import Courier.Base64

/-! Base64 reads back.

    `decode?` reads letters four by four: it wants the letters of the alphabet, `=` in the last places of
    the last four only, and no bits left over. It gives back the bytes that were encoded
    (`decode?_encode`), whether their number is a multiple of three or not. -/

namespace Courier.Base64

/-- The letters in the order of their numbers. -/
def alphabet : List Char := "ABCDEFGHIJKLMNOPQRSTUVWXYZabcdefghijklmnopqrstuvwxyz0123456789+/".toList

/-- The number of a letter. -/
def value? (c : Char) : Option Nat := alphabet.findIdx? (· == c)

/-- The bytes of some letters, if they are the letters of bytes. -/
def decode? : List Char → Option Bytes
  | [] => some []
  | [p, q, '=', '='] => do
    let a ← value? p
    let b ← value? q
    if b % 16 = 0 then some [(a * 4 + b / 16).toUInt8] else none
  | [p, q, r, '='] => do
    let a ← value? p
    let b ← value? q
    let c ← value? r
    if c % 4 = 0 then some [(a * 4 + b / 16).toUInt8, (b % 16 * 16 + c / 4).toUInt8] else none
  | p :: q :: r :: s :: rest => do
    let a ← value? p
    let b ← value? q
    let c ← value? r
    let d ← value? s
    let bytes ← decode? rest
    some ((a * 4 + b / 16).toUInt8 :: (b % 16 * 16 + c / 4).toUInt8 :: (c % 4 * 64 + d).toUInt8 :: bytes)
  | _ => none

/-! ### The alphabet -/

theorem letter_table : ∀ n : Fin 64, value? (letter n) = some n.val ∧ letter n ≠ '=' ∧
    32 < (letter n).toNat ∧ (letter n).toNat < 127 := by
  decide

section

variable {n : Nat} (h : n < 64)

include h

theorem value?_letter : value? (letter n) = some n := (letter_table ⟨n, h⟩).1

theorem letter_ne_pad : letter n ≠ '=' := (letter_table ⟨n, h⟩).2.1

theorem letter_shows : 32 < (letter n).toNat ∧ (letter n).toNat < 127 := (letter_table ⟨n, h⟩).2.2

end

/-! ### Three bytes and four letters -/

theorem toUInt8_eq {n : Nat} {b : UInt8} (h : n = b.toNat) : n.toUInt8 = b := by
  rw [h, Nat.toUInt8_eq, UInt8.ofNat_toNat]

theorem decode?_one {m n : Nat} (hm : m < 64) (hn : n < 64) :
    decode? [letter m, letter n, '=', '=']
      = if n % 16 = 0 then some [(m * 4 + n / 16).toUInt8] else none := by
  rw [decode?, value?_letter hm, value?_letter hn]
  rfl

theorem decode?_two {m n k : Nat} (hm : m < 64) (hn : n < 64) (hk : k < 64) :
    decode? [letter m, letter n, letter k, '=']
      = if k % 4 = 0 then some [(m * 4 + n / 16).toUInt8, (n % 16 * 16 + k / 4).toUInt8] else none := by
  rw [decode?, value?_letter hm, value?_letter hn, value?_letter hk]
  · rfl
  · exact fun he => letter_ne_pad hk he

theorem decode?_four {m n k l : Nat} (hm : m < 64) (hn : n < 64) (hk : k < 64) (hl : l < 64)
    (rest : List Char) : decode? (letter m :: letter n :: letter k :: letter l :: rest)
      = (decode? rest).map fun bytes => (m * 4 + n / 16).toUInt8 :: (n % 16 * 16 + k / 4).toUInt8 ::
          (k % 4 * 64 + l).toUInt8 :: bytes := by
  rw [decode?, value?_letter hm, value?_letter hn, value?_letter hk, value?_letter hl]
  · cases decode? rest <;> rfl
  · exact fun _ he _ => letter_ne_pad hl he
  · exact fun he _ => letter_ne_pad hl he

/-! ### All bytes -/

/-- What is encoded reads back. -/
theorem decode?_encode : ∀ bs : Bytes, decode? (encode bs) = some bs
  | [] => rfl
  | [a] => by
    have ha := a.toNat_lt
    rw [encode, decode?_one (by omega) (by omega), if_pos (by omega), toUInt8_eq (b := a) (by omega)]
  | [a, b] => by
    have ha := a.toNat_lt
    have hb := b.toNat_lt
    rw [encode, decode?_two (by omega) (by omega) (by omega), if_pos (by omega),
      toUInt8_eq (b := a) (by omega), toUInt8_eq (b := b) (by omega)]
  | a :: b :: c :: rest => by
    have ha := a.toNat_lt
    have hb := b.toNat_lt
    have hc := c.toNat_lt
    rw [encode, decode?_four (by omega) (by omega) (by omega) (by omega), decode?_encode rest,
      toUInt8_eq (b := a) (by omega), toUInt8_eq (b := b) (by omega), toUInt8_eq (b := c) (by omega)]
    rfl

/-- What is encoded is printable ASCII, without blanks. -/
theorem encode_shows : ∀ (bs : Bytes), ∀ c ∈ encode bs, 32 < c.toNat ∧ c.toNat < 127
  | [], _, hc => absurd hc List.not_mem_nil
  | [a], c, hc => by
    have ha := a.toNat_lt
    simp only [encode, List.mem_cons, List.not_mem_nil, or_false] at hc
    rcases hc with rfl | rfl | rfl | rfl
    · exact letter_shows (by omega)
    · exact letter_shows (by omega)
    · decide
    · decide
  | [a, b], c, hc => by
    have ha := a.toNat_lt
    have hb := b.toNat_lt
    simp only [encode, List.mem_cons, List.not_mem_nil, or_false] at hc
    rcases hc with rfl | rfl | rfl | rfl
    · exact letter_shows (by omega)
    · exact letter_shows (by omega)
    · exact letter_shows (by omega)
    · decide
  | a :: b :: c :: rest, d, hd => by
    have ha := a.toNat_lt
    have hb := b.toNat_lt
    have hc := c.toNat_lt
    simp only [encode, List.mem_cons] at hd
    rcases hd with rfl | rfl | rfl | rfl | hd
    · exact letter_shows (by omega)
    · exact letter_shows (by omega)
    · exact letter_shows (by omega)
    · exact letter_shows (by omega)
    · exact encode_shows rest d hd

end Courier.Base64
