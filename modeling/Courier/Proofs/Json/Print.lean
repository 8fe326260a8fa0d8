import Courier.Json.Printer
import Courier.Proofs.Json.Number

/-! Printed values hold no controls.

    Line ends in particular are escaped, so that a line holds a value (`toBytes_visible`). -/

namespace Courier

/-- A character that is no control. -/
def Visible (c : Char) : Prop := 32 ≤ c.toNat

instance (c : Char) : Decidable (Visible c) := inferInstanceAs (Decidable (32 ≤ c.toNat))

theorem visible_of_all {cs : List Char} (h : cs.all fun c => Visible c) : ∀ c ∈ cs, Visible c := by
  simpa using h

namespace Json

theorem digitChar_visible : ∀ d < 16, Visible (Nat.digitChar d) := by decide

theorem spelling_visible {x : Numeral.Spelling} (hx : x.Sound) : ∀ c ∈ x.chars, Visible c := by
  have hdigits : ∀ {ds : List Nat}, (∀ d ∈ ds, d < 10) → ∀ c ∈ ds.map Nat.digitChar, Visible c := by
    intro ds h c hc
    obtain ⟨d, hd, rfl⟩ := List.mem_map.mp hc
    exact digitChar_visible d (Nat.lt_trans (h d hd) (by decide))
  have hfraction : ∀ c ∈ x.fractionChars, Visible c := by
    rw [Numeral.Spelling.fractionChars]
    split
    · exact List.forall_mem_nil _
    · exact List.forall_mem_cons.mpr ⟨by decide, hdigits hx.fraction⟩
  have hexponent : ∀ c ∈ x.exponentChars, Visible c := by
    rw [Numeral.Spelling.exponentChars]
    rcases he : x.exponent with _ | ⟨down, ds⟩
    · exact List.forall_mem_nil _
    · refine List.forall_mem_cons.mpr ⟨by decide, List.forall_mem_cons.mpr ⟨?_, ?_⟩⟩
      · have hsign : ∀ b : Bool, Visible (if b then '-' else '+') := by decide
        exact hsign down
      · exact hdigits (hx.exponent down ds he).2
  rw [Numeral.Spelling.chars, Numeral.Spelling.unsigned, List.forall_mem_append, List.forall_mem_append,
    List.forall_mem_append]
  refine ⟨?_, ⟨hdigits hx.whole, hfraction⟩, hexponent⟩
  cases x.negative
  · exact List.forall_mem_nil _
  · exact List.forall_mem_cons.mpr ⟨by decide, List.forall_mem_nil _⟩

theorem escapedChar_visible (c : Char) : ∀ d ∈ escapedChar c, Visible d := by
  have hshort : ∀ e, Visible e → ∀ d ∈ ['\\', e], Visible d := fun e he =>
    List.forall_mem_cons.mpr ⟨by decide, List.forall_mem_cons.mpr ⟨he, nofun⟩⟩
  rw [escapedChar]
  split
  · exact hshort _ (by decide)
  split
  · exact hshort _ (by decide)
  split
  · exact hshort _ (by decide)
  split
  · exact hshort _ (by decide)
  split
  · exact hshort _ (by decide)
  split
  · exact hshort _ (by decide)
  split
  · exact hshort _ (by decide)
  split
  · next h =>
    simp only [List.forall_mem_cons]
    exact ⟨by decide, by decide, by decide, by decide, digitChar_visible _ (by omega),
      digitChar_visible _ (by omega), nofun⟩
  · next h => exact List.forall_mem_cons.mpr ⟨Nat.not_lt.mp h, nofun⟩

theorem stringChars_visible (s : String) : ∀ c ∈ stringChars s, Visible c := by
  have hquote : Visible '"' := by decide
  rw [stringChars, List.forall_mem_append, List.forall_mem_cons, List.forall_mem_singleton]
  refine ⟨⟨hquote, fun d hd => ?_⟩, hquote⟩
  obtain ⟨c, -, hc⟩ := List.mem_flatMap.mp hd
  exact escapedChar_visible c d hc

mutual

theorem chars_visible : ∀ v : Json, ∀ c ∈ v.chars, Visible c
  | .null => visible_of_all (by decide)
  | .bool true => visible_of_all (by decide)
  | .bool false => visible_of_all (by decide)
  | .number n => by
    obtain ⟨x, hx, htext⟩ := n.text_spelled
    rw [chars, htext]
    exact spelling_visible hx
  | .string s => stringChars_visible s
  | .array [] => visible_of_all (by decide)
  | .array (item :: items) => by
    rw [chars, List.cons_append, List.forall_mem_cons, List.forall_mem_append]
    exact ⟨by decide, chars_visible item, itemsChars_visible items⟩
  | .object [] => visible_of_all (by decide)
  | .object ((k, v) :: ms) => by
    simp only [chars, List.cons_append, List.append_assoc, List.forall_mem_cons, List.forall_mem_append]
    exact ⟨by decide, stringChars_visible k, by decide, chars_visible v, membersChars_visible ms⟩
termination_by structural v => v

theorem itemsChars_visible : ∀ js : List Json, ∀ c ∈ itemsChars js, Visible c
  | [] => visible_of_all (by decide)
  | item :: items => by
    rw [itemsChars, List.cons_append, List.forall_mem_cons, List.forall_mem_append]
    exact ⟨by decide, chars_visible item, itemsChars_visible items⟩
termination_by structural js => js

theorem membersChars_visible : ∀ ms : List (String × Json), ∀ c ∈ membersChars ms, Visible c
  | [] => visible_of_all (by decide)
  | (k, v) :: ms => by
    simp only [membersChars, List.cons_append, List.append_assoc, List.forall_mem_cons,
      List.forall_mem_append]
    exact ⟨by decide, stringChars_visible k, by decide, chars_visible v, membersChars_visible ms⟩
termination_by structural ms => ms

end

/-- No byte of a printed value is a control. -/
theorem toBytes_visible (v : Json) : ∀ b ∈ v.toBytes, 32 ≤ b.toNat := by
  intro b hb
  obtain ⟨c, hc, hbyte⟩ := List.mem_flatMap.mp hb
  rcases Text.charBytes_cases c with ⟨hlow, hone⟩ | ⟨-, -, hhigh⟩
  · rw [hone, List.mem_singleton] at hbyte
    rw [hbyte, Text.toNat_toUInt8 (by omega)]
    exact chars_visible v c hc
  · exact Nat.le_trans (by decide) (hhigh b hbyte)

end Json
end Courier
