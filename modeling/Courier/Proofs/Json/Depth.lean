import Courier.Proofs.Json.Ordered
import Courier.Proofs.Json.Parse

/-! How deep a value nests.

    A value can be read if its containers nest no deeper than readers follow and its objects are ordered
    (`Ordered.fits`), and what was read from a text is ordered (`parse_ordered`). If its numbers are whole,
    a value comes back from its print as it was (`Whole.stable`). -/

namespace Courier.Json

mutual

/-- How many containers there are around the innermost part of the value. -/
def depth : Json → Nat
  | .array items => itemsDepth items + 1
  | .object members => membersDepth members + 1
  | _ => 0
termination_by structural j => j

/-- How deep the deepest item nests. -/
def itemsDepth : List Json → Nat
  | [] => 0
  | j :: js => max (depth j) (itemsDepth js)
termination_by structural js => js

/-- How deep the deepest value of a member nests. -/
def membersDepth : List (String × Json) → Nat
  | [] => 0
  | (_, j) :: ms => max (depth j) (membersDepth ms)
termination_by structural ms => ms

end

mutual

/-- Under `level` containers a value can be read that leaves room for its own. -/
theorem Ordered.fits : ∀ {j : Json} {level : Nat}, j.Ordered → level + j.depth ≤ maxDepth → j.Fits level
  | .null, _, _, _ => trivial
  | .bool _, _, _, _ => trivial
  | .number _, _, _, _ => trivial
  | .string _, _, _, _ => trivial
  | .array items, level, hordered, hdepth => by
    rw [depth] at hdepth
    exact ⟨by omega, itemsOrdered_fit hordered (by omega)⟩
  | .object members, level, hordered, hdepth => by
    rw [depth] at hdepth
    exact ⟨by omega, membersOrdered_fit hordered.2 (by omega), hordered.1⟩
termination_by structural j => j

theorem itemsOrdered_fit : ∀ {js : List Json} {level : Nat}, ItemsOrdered js →
    level + itemsDepth js ≤ maxDepth → ItemsFit js level
  | [], _, _, _ => trivial
  | j :: js, level, hordered, hdepth => by
    rw [itemsDepth] at hdepth
    exact ⟨hordered.1.fits (by omega), itemsOrdered_fit hordered.2 (by omega)⟩
termination_by structural js => js

theorem membersOrdered_fit : ∀ {ms : List (String × Json)} {level : Nat}, MembersOrdered ms →
    level + membersDepth ms ≤ maxDepth → MembersFit ms level
  | [], _, _, _ => trivial
  | (k, j) :: ms, level, hordered, hdepth => by
    rw [membersDepth] at hdepth
    exact ⟨hordered.1.fits (by omega), membersOrdered_fit hordered.2 (by omega)⟩
termination_by structural ms => ms

end

mutual

/-- What can be read is ordered. -/
theorem Fits.ordered : ∀ {j : Json} {level : Nat}, j.Fits level → j.Ordered
  | .null, _, _ => trivial
  | .bool _, _, _ => trivial
  | .number _, _, _ => trivial
  | .string _, _, _ => trivial
  | .array _, _, ⟨_, hitems⟩ => hitems.ordered
  | .object _, _, ⟨_, hmembers, hsorted⟩ => ⟨hsorted, hmembers.ordered⟩
termination_by structural j => j

theorem ItemsFit.ordered : ∀ {js : List Json} {level : Nat}, ItemsFit js level → ItemsOrdered js
  | [], _, _ => trivial
  | _ :: _, _, ⟨hj, hjs⟩ => ⟨hj.ordered, hjs.ordered⟩
termination_by structural js => js

theorem MembersFit.ordered : ∀ {ms : List (String × Json)} {level : Nat}, MembersFit ms level → MembersOrdered ms
  | [], _, _ => trivial
  | _ :: _, _, ⟨hj, hms⟩ => ⟨hj.ordered, hms.ordered⟩
termination_by structural ms => ms

end

/-- What a text holds is ordered. -/
theorem parse_ordered {text : Bytes} {j : Json} (h : parse text = .ok j) : j.Ordered := (fits_of_parse h).ordered

/-- All numbers in the value are whole. -/
def Whole (j : Json) : Prop := ∀ n ∈ j.numbers, ∃ v h, n = .whole v h

theorem Whole.stable {j : Json} (h : j.Whole) : j.Stable := by
  intro n hn
  obtain ⟨v, hv, rfl⟩ := h n hn
  exact whole_reread? v hv

end Courier.Json
