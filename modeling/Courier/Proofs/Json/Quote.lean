import Courier.Json.Printer
import Courier.Json.Quote
import Courier.Proofs.Text.Utf8

/-! Printed strings read back.

    A string that is read behind its opening quote is the one that was printed, and the text behind its
    closing quote is left (`scan_stringChars`). -/

namespace Courier.Json

open Text (charBytes charsBytes)

/-- A string that is being read, nothing being wrong with it. -/
def Quote.sound (octets : Bytes) : Quote := ⟨octets, none, none⟩

/-- Octets that stand for themselves within a string. -/
def IsPlain (b : UInt8) : Prop := 32 ≤ b.toNat ∧ b ≠ 34 ∧ b ≠ 92

theorem scan_plain (octets : Bytes) (s : Spot) {b : UInt8} (hb : IsPlain b) (rest : Bytes) :
    scanString (.sound octets) s (b :: rest) = scanString (.sound (b :: octets)) (s.next b) rest := by
  obtain ⟨hlow, hquote, hslash⟩ := hb
  have hcontrol : ¬ b < 32 := by rw [UInt8.lt_iff_toNat_lt]; exact Nat.not_lt.mpr hlow
  have hstep := scanString.eq_def (.sound octets) s (b :: rest)
  simp only at hstep
  rw [hstep, if_neg (by simpa using hquote), if_neg (by simpa using hslash), if_neg hcontrol]
  rfl

theorem scan_plains (bs octets : Bytes) (s : Spot) (rest : Bytes) (h : ∀ b ∈ bs, IsPlain b) :
    ∃ s', scanString (.sound octets) s (bs ++ rest) = scanString (.sound (bs.reverse ++ octets)) s' rest := by
  induction bs generalizing octets s with
  | nil => exact ⟨s, rfl⟩
  | cons b bs ih =>
    obtain ⟨s', hscan⟩ := ih (b :: octets) (s.next b) fun b' hb' => h b' (.tail b hb')
    refine ⟨s', ?_⟩
    rw [List.cons_append, scan_plain octets s (h b List.mem_cons_self), hscan, List.reverse_cons,
      List.append_assoc]
    rfl

theorem scan_escape (octets : Bytes) (s : Spot) {e : UInt8} {c : Char} (hu : e ≠ 117)
    (he : escape? e = some c) (rest : Bytes) : scanString (.sound octets) s (92 :: e :: rest)
      = scanString (.sound ((charBytes c).reverse ++ octets)) ((s.next 92).next e) rest := by
  have hstep := scanString.eq_def (.sound octets) s (92 :: e :: rest)
  simp only at hstep
  rw [hstep, if_neg (by decide), if_pos (by decide), if_neg (by simpa using hu)]
  simp only [he]
  rfl

/-- A control character is escaped by its number. -/
theorem scan_numbered (octets : Bytes) (s : Spot) {n : Nat} (hn : n < 32) (rest : Bytes) :
    ∃ s', scanString (.sound octets) s (92 :: 117 :: 48 :: 48 :: (Nat.digitChar (n / 16)).toNat.toUInt8
        :: (Nat.digitChar (n % 16)).toNat.toUInt8 :: rest)
      = scanString (.sound ((charBytes (Char.ofNat n)).reverse ++ octets)) s' rest := by
  have hhex : ∀ n < 32, hex4? 48 48 (Nat.digitChar (n / 16)).toNat.toUInt8
      (Nat.digitChar (n % 16)).toNat.toUInt8 = some n := by decide
  have hstep := scanString.eq_def (.sound octets) s (92 :: 117 :: 48 :: 48
    :: (Nat.digitChar (n / 16)).toNat.toUInt8 :: (Nat.digitChar (n % 16)).toNat.toUInt8 :: rest)
  simp only at hstep
  rw [hstep, if_neg (by decide), if_pos (by decide), if_pos (by decide)]
  simp only [hhex n hn, Quote.pushUnit, Quote.sound]
  rw [if_neg (by simp; omega), if_neg (by simp; omega)]
  exact ⟨_, rfl⟩

theorem charBytes_plain {c : Char} (hquote : c ≠ '"') (hslash : c ≠ '\\') (hcontrol : 32 ≤ c.toNat) :
    ∀ b ∈ charBytes c, IsPlain b := by
  intro b hb
  rcases Text.charBytes_cases c with ⟨hlow, hc⟩ | ⟨hhigh, -, hc⟩
  · rw [hc, List.mem_singleton] at hb
    have hb' : b.toNat = c.toNat := by rw [hb, Text.toNat_toUInt8 (by omega)]
    refine ⟨by omega, ?_, ?_⟩
    · rintro rfl
      exact hquote (Char.toNat_inj.mp hb'.symm)
    · rintro rfl
      exact hslash (Char.toNat_inj.mp hb'.symm)
  · have hb' := hc b hb
    refine ⟨by omega, ?_, ?_⟩ <;> rintro rfl <;> simp at hb'

/-- A character is read as it was written, escaped or not. -/
theorem scan_escapedChar (c : Char) (octets : Bytes) (s : Spot) (rest : Bytes) :
    ∃ s', scanString (.sound octets) s (charsBytes (escapedChar c) ++ rest)
      = scanString (.sound ((charBytes c).reverse ++ octets)) s' rest := by
  have hself : Char.ofNat c.toNat = c := Char.ofNat_toNat c
  rw [escapedChar]
  split
  · next h => rw [eq_of_beq h]; exact ⟨_, scan_escape octets s (by decide) (by decide) rest⟩
  split
  · next h => rw [eq_of_beq h]; exact ⟨_, scan_escape octets s (by decide) (by decide) rest⟩
  split
  · next h => rw [eq_of_beq h]; exact ⟨_, scan_escape octets s (by decide) (by decide) rest⟩
  split
  · next h => rw [eq_of_beq h]; exact ⟨_, scan_escape octets s (by decide) (by decide) rest⟩
  split
  · next h => rw [eq_of_beq h]; exact ⟨_, scan_escape octets s (by decide) (by decide) rest⟩
  split
  · next h =>
    rw [← hself, eq_of_beq h]
    exact ⟨_, scan_escape octets s (by decide) (by decide) rest⟩
  split
  · next h =>
    rw [← hself, eq_of_beq h]
    exact ⟨_, scan_escape octets s (by decide) (by decide) rest⟩
  split
  · next h =>
    have hascii : ∀ n < 32, ['\\', 'u', '0', '0', Nat.digitChar (n / 16), Nat.digitChar (n % 16)].all
        fun d => d.toNat < 0x80 := by decide
    have hnumbered := scan_numbered octets s h rest
    rw [hself] at hnumbered
    rw [Text.charsBytes_ascii (by simpa using hascii c.toNat h)]
    exact hnumbered
  · next hquote hslash _ _ _ _ _ hcontrol =>
    have hplain := charBytes_plain (by simpa using hquote) (by simpa using hslash) (by omega)
    have hone : charsBytes [c] = charBytes c := List.flatMap_singleton _ _
    rw [hone]
    exact scan_plains _ octets s rest hplain

theorem scan_escapedChars (cs : List Char) (octets : Bytes) (s : Spot) (rest : Bytes) :
    ∃ s', scanString (.sound octets) s (charsBytes (cs.flatMap escapedChar) ++ rest)
      = scanString (.sound ((charsBytes cs).reverse ++ octets)) s' rest := by
  induction cs generalizing octets s with
  | nil => exact ⟨s, rfl⟩
  | cons c cs ih =>
    obtain ⟨s₁, hc⟩ := scan_escapedChar c octets s (charsBytes (cs.flatMap escapedChar) ++ rest)
    obtain ⟨s₂, hcs⟩ := ih ((charBytes c).reverse ++ octets) s₁
    refine ⟨s₂, ?_⟩
    rw [List.flatMap_cons, Text.charsBytes_append, List.append_assoc, hc, hcs, Text.charsBytes_cons,
      List.reverse_append, List.append_assoc]

/-- A printed string, read behind its opening quote. -/
theorem scan_stringChars (text : String) (s : Spot) (rest : Bytes) : ∃ bs s',
    charsBytes (stringChars text) ++ rest = 34 :: bs ∧
      Cursor.string ⟨s, bs⟩ = ⟨.ok text, none, ⟨s', rest⟩⟩ := by
  obtain ⟨s₁, hscan⟩ := scan_escapedChars text.toList [] s (34 :: rest)
  refine ⟨charsBytes (text.toList.flatMap escapedChar) ++ 34 :: rest, s₁.next 34, ?_, ?_⟩
  · have hquote : charsBytes ['"'] = [34] := by decide
    have hopen : stringChars text = ['"'] ++ text.toList.flatMap escapedChar ++ ['"'] := rfl
    rw [hopen, Text.charsBytes_append, Text.charsBytes_append, hquote]
    simp
  · have hclose : ∀ octets, scanString (.sound octets) s₁ (34 :: rest)
        = (Quote.sound octets).finish ⟨s₁.next 34, rest⟩ := by
      intro octets
      have hstep := scanString.eq_def (.sound octets) s₁ (34 :: rest)
      simp only at hstep
      rw [hstep, if_pos (by decide)]
      rfl
    have htext : Text.decodeChars (charsBytes text.toList) = .ok text.toList :=
      Text.decodeChars_charsBytes text.toList
    have hstring : Cursor.string ⟨s, charsBytes (text.toList.flatMap escapedChar) ++ 34 :: rest⟩
        = scanString (.sound []) s (charsBytes (text.toList.flatMap escapedChar) ++ 34 :: rest) := rfl
    rw [hstring, hscan, hclose, Quote.finish, Quote.text, Quote.sound]
    simp only [List.append_nil, List.reverse_reverse, htext, String.ofList_toList]

end Courier.Json
