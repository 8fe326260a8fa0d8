import Mathlib.Data.Bool.AllAny
import Mathlib.Data.List.Basic
import Courier.Proofs.Text.Utf8
import Courier.Url.Path

/-! What is percent-encoded stays.

    An encoded part is printable ASCII that its own set does not encode (`percent_settled`), so that
    encoding it once more changes nothing (`Settled.percent`). -/

namespace Courier.Url

/-- All characters are printable ASCII outside a set. -/
def Settled (set cs : List Char) : Prop := ∀ c ∈ cs, 32 ≤ c.toNat ∧ c.toNat ≤ 126 ∧ c ∉ set

/-- The characters of an encoded byte. -/
def percentSigns : List Char := '%' :: (List.range 16).map hexUpper

theorem percentByte_signs (b : UInt8) : ∀ c ∈ percentByte b, c ∈ percentSigns := by
  have hb := b.toNat_lt
  have hhex : ∀ n < 16, hexUpper n ∈ percentSigns := fun n hn =>
    .tail _ (List.mem_map_of_mem (List.mem_range.mpr hn))
  intro c hc
  simp only [percentByte, List.mem_cons, List.not_mem_nil, or_false] at hc
  rcases hc with rfl | rfl | rfl
  · exact .head _
  · exact hhex _ (by omega)
  · exact hhex _ (by omega)

theorem percentChar_mem {set : List Char} {c d : Char} (h : d ∈ percentChar set c) :
    d ∈ percentSigns ∨ (d = c ∧ 32 ≤ c.toNat ∧ c.toNat ≤ 126 ∧ c ∉ set) := by
  rw [percentChar] at h
  split at h
  · obtain ⟨b, -, hb⟩ := List.mem_flatMap.mp h
    exact .inl (percentByte_signs b d hb)
  · next hkept =>
    simp only [Bool.or_eq_true, decide_eq_true_eq, List.contains_iff_mem, not_or, Nat.not_lt] at hkept
    exact .inr ⟨List.mem_singleton.mp h, hkept.1.1, hkept.1.2, hkept.2⟩

/-- A character of an encoded part comes from an encoded byte, or was there before. -/
theorem percent_mem {set cs : List Char} {d : Char} (h : d ∈ (percent set cs).toList) : d ∈ percentSigns ∨ d ∈ cs := by
  rw [percent, String.toList_ofList] at h
  obtain ⟨c, hc, hd⟩ := List.mem_flatMap.mp h
  rcases percentChar_mem hd with hsign | ⟨rfl, -⟩
  · exact .inl hsign
  · exact .inr hc

theorem percent_settled {set : List Char} (hset : ∀ c ∈ percentSigns, c ∉ set) (cs : List Char) :
    Settled set (percent set cs).toList := by
  have hprintable : ∀ c ∈ percentSigns, 32 ≤ c.toNat ∧ c.toNat ≤ 126 :=
    List.all_iff_forall_prop.mp (by decide)
  intro d hd
  rw [percent, String.toList_ofList] at hd
  obtain ⟨c, -, hd⟩ := List.mem_flatMap.mp hd
  rcases percentChar_mem hd with hsign | ⟨rfl, hlow, hhigh, hout⟩
  · exact ⟨(hprintable d hsign).1, (hprintable d hsign).2, hset d hsign⟩
  · exact ⟨hlow, hhigh, hout⟩

theorem percent_eq_empty {set cs : List Char} : percent set cs = "" ↔ cs = [] := by
  have hbyte (b : UInt8) : percentByte b ≠ [] := nofun
  constructor
  · intro h
    cases cs with
    | nil => rfl
    | cons c cs =>
      have hnil : percentChar set c = [] := by
        rw [percent, String.ofList_eq_empty_iff, List.flatMap_cons, List.append_eq_nil_iff] at h
        exact h.1
      rw [percentChar] at hnil
      split at hnil
      · have hchar : Text.charBytes c ≠ [] := by
          rcases Text.charBytes_cases c with ⟨-, hone⟩ | ⟨-, hmore, -⟩
          · simp [hone]
          · exact hmore
        obtain ⟨b, hb⟩ := List.exists_mem_of_ne_nil _ hchar
        exact absurd (List.flatMap_eq_nil_iff.mp hnil b hb) (hbyte b)
      · exact absurd hnil nofun
  · rintro rfl
    rfl

namespace Settled

variable {set cs : List Char}

/-- Encoding changes nothing. -/
theorem percent (h : Settled set cs) : Url.percent set cs = String.ofList cs := by
  have hstay : ∀ c ∈ cs, percentChar set c = [c] := by
    intro c hc
    obtain ⟨hlow, hhigh, hout⟩ := h c hc
    rw [percentChar, if_neg]
    simp only [Bool.or_eq_true, decide_eq_true_eq, List.contains_iff_mem, not_or, Nat.not_lt]
    exact ⟨⟨hlow, hhigh⟩, hout⟩
  rw [Url.percent, List.flatMap_congr hstay]
  simp

theorem notIgnored (h : Settled set cs) : ∀ c ∈ cs, isIgnored c = false := by
  intro c hc
  have hlow := (h c hc).1
  rw [Bool.eq_false_iff]
  intro hignored
  simp only [isIgnored, Bool.or_eq_true, beq_iff_eq] at hignored
  rcases hignored with (rfl | rfl) | rfl <;> exact absurd hlow (by decide)

theorem visible (h : Settled set cs) : Url.visible cs = cs :=
  List.filter_eq_self.mpr fun c hc => by rw [h.notIgnored c hc]; rfl

end Settled
end Courier.Url
