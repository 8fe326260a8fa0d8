import Courier.Text.Utf8

/-! Text as bytes reads back.

    The bytes of characters decode to these characters (`decodeChars_charsBytes`). Bytes below 128 stand
    for themselves only: none is part of a longer character. -/

namespace Courier.Text

theorem toNat_toUInt8 {n : Nat} (h : n < 256) : n.toUInt8.toNat = n := by
  rw [Nat.toUInt8_eq, UInt8.toNat_ofNat', Nat.mod_eq_of_lt h]

/-- What may follow a lead byte, in numbers. -/
theorem follow_eq (b : UInt8) : follow b =
    if b.toNat < 0xC2 then none
    else if b.toNat < 0xE0 then some (1, 0x80, 0xBF)
    else if b.toNat = 0xE0 then some (2, 0xA0, 0xBF)
    else if b.toNat = 0xED then some (2, 0x80, 0x9F)
    else if b.toNat < 0xF0 then some (2, 0x80, 0xBF)
    else if b.toNat = 0xF0 then some (3, 0x90, 0xBF)
    else if b.toNat < 0xF4 then some (3, 0x80, 0xBF)
    else if b.toNat = 0xF4 then some (3, 0x80, 0x8F)
    else none := by
  simp only [follow, UInt8.lt_iff_toNat_lt, beq_iff_eq, ← UInt8.toNat_inj]
  rfl

theorem isContinuation_eq (b : UInt8) : isContinuation b = decide (0x80 ≤ b.toNat ∧ b.toNat ≤ 0xBF) := by
  simp only [isContinuation, UInt8.le_iff_toNat_le, Bool.decide_and]
  rfl

theorem not_ascii {b : UInt8} (h : 0x80 ≤ b.toNat) : ¬ b < 0x80 := by
  rw [UInt8.lt_iff_toNat_lt]
  exact Nat.not_lt.mpr h

/-! ### Characters of one to four bytes -/

section segments

variable {c : Char} {n : Nat} (hc : c.toNat = n) {b b1 b2 b3 : UInt8} (rest : Bytes)

include hc

theorem segments_one (h : n < 0x80) (hb : b.toNat = n) :
    segments (b :: rest) = .char c 1 :: segments rest := by
  have hself : Char.ofNat n = c := by rw [← hc, Char.ofNat_toNat]
  have hlead : b < 0x80 := by rw [UInt8.lt_iff_toNat_lt, hb]; exact h
  rw [segments, if_pos hlead, hb, hself]

theorem segments_two (hlow : 0x80 ≤ n) (h : n < 0x800) (hb : b.toNat = 0xC0 + n / 64)
    (hb1 : b1.toNat = 0x80 + n % 64) :
    segments (b :: b1 :: rest) = .char c 2 :: segments rest := by
  have hself : Char.ofNat n = c := by rw [← hc, Char.ofNat_toNat]
  have hlead : ¬ b < 0x80 := not_ascii (by omega)
  have hfollow : follow b = some (1, 0x80, 0xBF) := by
    rw [follow_eq, hb, if_neg (by omega), if_pos (by omega)]
  have hrange : ¬ (b1 < 0x80 ∨ 0xBF < b1) := by
    rw [UInt8.lt_iff_toNat_lt, UInt8.lt_iff_toNat_lt, hb1]; simp; omega
  have hvalue : (b.toNat - 0xC0) * 64 + low6 b1 = n := by rw [low6, hb, hb1]; omega
  simp [segments, hlead, hfollow, hrange, hvalue, hself]

theorem segments_three (hlow : 0x800 ≤ n) (h : n < 0x10000) (hscalar : n < 0xD800 ∨ 0xDFFF < n)
    (hb : b.toNat = 0xE0 + n / 4096) (hb1 : b1.toNat = 0x80 + n / 64 % 64)
    (hb2 : b2.toNat = 0x80 + n % 64) :
    segments (b :: b1 :: b2 :: rest) = .char c 3 :: segments rest := by
  have hself : Char.ofNat n = c := by rw [← hc, Char.ofNat_toNat]
  have hlead : ¬ b < 0x80 := not_ascii (by omega)
  obtain ⟨lo, hi, hfollow, hrange⟩ : ∃ lo hi, follow b = some (2, lo, hi) ∧ ¬ (b1 < lo ∨ hi < b1) := by
    simp only [follow_eq, hb, UInt8.lt_iff_toNat_lt, hb1]
    rw [if_neg (by omega), if_neg (by omega)]
    split
    · exact ⟨_, _, rfl, by simp; omega⟩
    · split
      · exact ⟨_, _, rfl, by simp; omega⟩
      · rw [if_pos (by omega)]
        exact ⟨_, _, rfl, by simp; omega⟩
  have hcontinues : isContinuation b2 = true := by rw [isContinuation_eq, hb2]; simp; omega
  have hvalue : (b.toNat - 0xE0) * 4096 + low6 b1 * 64 + low6 b2 = n := by
    rw [low6, low6, hb, hb1, hb2]; omega
  simp [segments, hlead, hfollow, hrange, hcontinues, hvalue, hself]

theorem segments_four (hlow : 0x10000 ≤ n) (h : n < 0x110000) (hb : b.toNat = 0xF0 + n / 262144)
    (hb1 : b1.toNat = 0x80 + n / 4096 % 64) (hb2 : b2.toNat = 0x80 + n / 64 % 64)
    (hb3 : b3.toNat = 0x80 + n % 64) :
    segments (b :: b1 :: b2 :: b3 :: rest) = .char c 4 :: segments rest := by
  have hself : Char.ofNat n = c := by rw [← hc, Char.ofNat_toNat]
  have hlead : ¬ b < 0x80 := not_ascii (by omega)
  obtain ⟨lo, hi, hfollow, hrange⟩ : ∃ lo hi, follow b = some (3, lo, hi) ∧ ¬ (b1 < lo ∨ hi < b1) := by
    simp only [follow_eq, hb, UInt8.lt_iff_toNat_lt, hb1]
    rw [if_neg (by omega), if_neg (by omega), if_neg (by omega), if_neg (by omega), if_neg (by omega)]
    split
    · exact ⟨_, _, rfl, by simp; omega⟩
    · split
      · exact ⟨_, _, rfl, by simp; omega⟩
      · rw [if_pos (by omega)]
        exact ⟨_, _, rfl, by simp; omega⟩
  have hcontinues : isContinuation b2 = true := by rw [isContinuation_eq, hb2]; simp; omega
  have hcontinues' : isContinuation b3 = true := by rw [isContinuation_eq, hb3]; simp; omega
  have hvalue : (b.toNat - 0xF0) * 262144 + low6 b1 * 4096 + low6 b2 * 64 + low6 b3 = n := by
    rw [low6, low6, low6, hb, hb1, hb2, hb3]; omega
  simp [segments, hlead, hfollow, hrange, hcontinues, hcontinues', hvalue, hself]

end segments

/-! ### All characters -/

theorem toNat_scalar (c : Char) : c.toNat < 0xD800 ∨ 0xDFFF < c.toNat ∧ c.toNat < 0x110000 := by
  simpa [UInt32.isValidChar, Nat.isValidChar] using c.valid

/-- The bytes of a character are read as this character. -/
theorem segments_charBytes (c : Char) (rest : Bytes) :
    ∃ size, segments (charBytes c ++ rest) = .char c size :: segments rest := by
  have hscalar := toNat_scalar c
  rw [charBytes]
  split
  · exact ⟨1, segments_one rfl rest (by omega) (toNat_toUInt8 (by omega))⟩
  · split
    · exact ⟨2, segments_two rfl rest (by omega) (by omega) (toNat_toUInt8 (by omega))
        (toNat_toUInt8 (by omega))⟩
    · split
      · exact ⟨3, segments_three rfl rest (by omega) (by omega) (by omega) (toNat_toUInt8 (by omega))
          (toNat_toUInt8 (by omega)) (toNat_toUInt8 (by omega))⟩
      · exact ⟨4, segments_four rfl rest (by omega) (by omega) (toNat_toUInt8 (by omega))
          (toNat_toUInt8 (by omega)) (toNat_toUInt8 (by omega)) (toNat_toUInt8 (by omega))⟩

theorem decodeChars_charsBytes : ∀ cs : List Char, decodeChars (charsBytes cs) = .ok cs
  | [] => rfl
  | c :: cs => by
    obtain ⟨size, hc⟩ := segments_charBytes c (charsBytes cs)
    have ih := decodeChars_charsBytes cs
    rw [decodeChars] at ih
    have hsplit : charsBytes (c :: cs) = charBytes c ++ charsBytes cs := rfl
    rw [hsplit, decodeChars, hc, strict, ih]

/-- No two texts are the same bytes. -/
theorem bytes_injective {s t : String} (h : bytes s = bytes t) : s = t := by
  have hread := decodeChars_charsBytes s.toList
  rw [bytes, bytes] at h
  rw [h, decodeChars_charsBytes] at hread
  exact String.toList_injective (Except.ok.inj hread).symm

/-- A character below 128 is one byte, and no byte of another character is below 128. -/
theorem charBytes_cases (c : Char) : (c.toNat < 0x80 ∧ charBytes c = [c.toNat.toUInt8]) ∨
    (0x80 ≤ c.toNat ∧ charBytes c ≠ [] ∧ ∀ b ∈ charBytes c, 0x80 ≤ b.toNat) := by
  have hscalar := toNat_scalar c
  rw [charBytes]
  split
  · next h => exact .inl ⟨h, rfl⟩
  · next h =>
    refine .inr ⟨by omega, ?_⟩
    split
    · refine ⟨nofun, fun b hb => ?_⟩
      simp only [List.mem_cons, List.not_mem_nil, or_false] at hb
      rcases hb with rfl | rfl <;> rw [toNat_toUInt8 (by omega)] <;> omega
    · split
      · refine ⟨nofun, fun b hb => ?_⟩
        simp only [List.mem_cons, List.not_mem_nil, or_false] at hb
        rcases hb with rfl | rfl | rfl <;> rw [toNat_toUInt8 (by omega)] <;> omega
      · refine ⟨nofun, fun b hb => ?_⟩
        simp only [List.mem_cons, List.not_mem_nil, or_false] at hb
        rcases hb with rfl | rfl | rfl | rfl <;> rw [toNat_toUInt8 (by omega)] <;> omega

theorem charsBytes_append (cs cs' : List Char) : charsBytes (cs ++ cs') = charsBytes cs ++ charsBytes cs' :=
  List.flatMap_append

theorem charsBytes_cons (c : Char) (cs : List Char) : charsBytes (c :: cs) = charBytes c ++ charsBytes cs :=
  rfl

/-- ASCII text has a byte for each character. -/
theorem charsBytes_ascii : ∀ {cs : List Char}, (∀ c ∈ cs, c.toNat < 0x80) →
    charsBytes cs = cs.map fun c => c.toNat.toUInt8
  | [], _ => rfl
  | c :: cs, h => by
    have ih := charsBytes_ascii fun c' hc' => h c' (List.mem_cons_of_mem c hc')
    rcases charBytes_cases c with ⟨_, hc⟩ | ⟨hhigh, _⟩
    · rw [charsBytes_cons, hc, ih, List.map_cons, List.singleton_append]
    · exact absurd (h c List.mem_cons_self) (Nat.not_lt.mpr hhigh)

end Courier.Text
