import Courier.Json.Basic

/-! Members in the order of their keys.

    Whatever is inserted, the keys stay in their order, each once (`ofList_sorted`); members that are in
    order stay as they are (`ofList_of_sorted`). -/

namespace Courier.Members

/-- The keys are in their order, each once. -/
def Sorted (ms : List (String × Json)) : Prop := (ms.map Prod.fst).Pairwise (· < ·)

instance (ms : List (String × Json)) : Decidable (Sorted ms) := inferInstanceAs (Decidable (List.Pairwise _ _))

theorem sorted_cons {k : String} {v : Json} {ms : List (String × Json)} :
    Sorted ((k, v) :: ms) ↔ (∀ m ∈ ms, k < m.1) ∧ Sorted ms := by
  rw [Sorted, List.map_cons, List.pairwise_cons, Sorted, List.forall_mem_map]

/-- An inserted member is the given one or one of those that were there. -/
theorem mem_insert {key : String} {value : Json} {m : String × Json} {ms : List (String × Json)}
    (h : m ∈ insert key value ms) : m = (key, value) ∨ m ∈ ms := by
  induction ms with
  | nil => exact .inl (List.mem_singleton.mp h)
  | cons entry rest ih =>
    rw [insert] at h
    split at h
    · rcases List.mem_cons.mp h with rfl | hmem
      · exact .inl rfl
      · exact .inr (.tail _ hmem)
    split at h
    · rcases List.mem_cons.mp h with rfl | hmem
      · exact .inl rfl
      · exact .inr hmem
    · rcases List.mem_cons.mp h with rfl | hmem
      · exact .inr List.mem_cons_self
      · exact (ih hmem).imp_right (.tail _)

theorem insert_sorted (key : String) (value : Json) {ms : List (String × Json)} (h : Sorted ms) :
    Sorted (insert key value ms) := by
  induction ms with
  | nil => exact List.pairwise_singleton _ _
  | cons entry rest ih =>
    obtain ⟨k, v⟩ := entry
    obtain ⟨hfirst, hrest⟩ := sorted_cons.mp h
    rw [insert]
    split
    · next heq =>
      rw [eq_of_beq heq]
      exact sorted_cons.mpr ⟨hfirst, hrest⟩
    split
    · next hlt =>
      refine sorted_cons.mpr ⟨fun m hm => ?_, h⟩
      rcases List.mem_cons.mp hm with rfl | hmem
      · exact hlt
      · exact String.lt_trans hlt (hfirst m hmem)
    · next hne hle =>
      have hbehind : k < key := by
        refine String.not_le.mp fun hge => hne (beq_iff_eq.mpr ?_)
        exact String.le_antisymm hge (String.not_lt.mp hle)
      refine sorted_cons.mpr ⟨fun m hm => ?_, ih hrest⟩
      rcases mem_insert hm with rfl | hmem
      · exact hbehind
      · exact hfirst m hmem

/-- A key behind all others is inserted at the end. -/
theorem insert_last (key : String) (value : Json) {ms : List (String × Json)}
    (h : ∀ m ∈ ms, m.1 < key) : insert key value ms = ms ++ [(key, value)] := by
  induction ms with
  | nil => rfl
  | cons entry rest ih =>
    obtain ⟨k, v⟩ := entry
    have hlt : k < key := h (k, v) List.mem_cons_self
    have hne : ¬(key == k) = true := by
      intro heq
      rw [eq_of_beq heq] at hlt
      exact String.lt_irrefl k hlt
    rw [insert, if_neg hne, if_neg (String.lt_asymm hlt), ih fun m hm => h m (.tail _ hm)]
    rfl

theorem foldl_sorted : ∀ (ms : List (String × Json)) {acc : List (String × Json)}, Sorted acc →
    Sorted (ms.foldl (fun acc m => insert m.1 m.2 acc) acc)
  | [], _, h => h
  | (k, v) :: ms, _, h => foldl_sorted ms (insert_sorted k v h)

theorem ofList_sorted (ms : List (String × Json)) : Sorted (ofList ms) := foldl_sorted ms .nil

theorem foldl_of_sorted {ms acc : List (String × Json)} (h : Sorted (acc ++ ms)) :
    ms.foldl (fun acc m => insert m.1 m.2 acc) acc = acc ++ ms := by
  induction ms generalizing acc with
  | nil => exact (List.append_nil acc).symm
  | cons entry ms ih =>
    obtain ⟨k, v⟩ := entry
    have hlast : ∀ m ∈ acc, m.1 < k := by
      intro m hm
      rw [Sorted, List.map_append, List.pairwise_append] at h
      exact h.2.2 m.1 (List.mem_map_of_mem hm) k List.mem_cons_self
    rw [List.foldl_cons, insert_last k v hlast, ih (by rwa [List.append_assoc]),
      List.append_assoc]
    rfl

theorem ofList_of_sorted {ms : List (String × Json)} (h : Sorted ms) : ofList ms = ms := foldl_of_sorted h

/-- Nothing is a member that was not one of the list. -/
theorem mem_foldl {m : String × Json} (ms : List (String × Json)) {acc : List (String × Json)}
    (h : m ∈ ms.foldl (fun acc m => insert m.1 m.2 acc) acc) : m ∈ acc ∨ m ∈ ms := by
  induction ms generalizing acc with
  | nil => exact .inl h
  | cons entry ms ih =>
    rcases ih h with hmem | hmem
    · exact (mem_insert hmem).elim (fun heq => .inr (heq ▸ List.mem_cons_self)) .inl
    · exact .inr (.tail _ hmem)

theorem mem_ofList {m : String × Json} {ms : List (String × Json)} (h : m ∈ ofList ms) : m ∈ ms :=
  (mem_foldl ms h).resolve_left List.not_mem_nil

end Courier.Members
