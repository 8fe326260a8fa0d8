import Mathlib.Data.List.TakeDrop

/-! Texts cut at a character.

    The parts hold all characters of the text but the ones where it is cut. They are read if each of them
    is. -/

namespace Courier

theorem mem_of_splitOn {a : Char} : ∀ {cs s : List Char}, s ∈ cs.splitOn a → ∀ c ∈ s, c ∈ cs ∧ c ≠ a
  | [], s, hs, c, hc => by
    rw [List.splitOn_nil, List.mem_singleton] at hs
    rw [hs] at hc
    cases hc
  | x :: cs, s, hs, c, hc => by
    have ih {s : List Char} (hs : s ∈ cs.splitOn a) (hc : c ∈ s) : c ∈ cs ∧ c ≠ a := mem_of_splitOn hs c hc
    rw [List.splitOn_cons_eq_if_modifyHead] at hs
    split at hs
    · rcases List.mem_cons.mp hs with rfl | hmem
      · cases hc
      · exact ⟨.tail _ (ih hmem hc).1, (ih hmem hc).2⟩
    · next hx =>
      obtain ⟨first, more, hparts⟩ := List.exists_cons_of_ne_nil (List.splitOn_ne_nil a cs)
      rw [hparts] at hs ih
      rcases List.mem_cons.mp hs with rfl | hmem
      · rcases List.mem_cons.mp hc with rfl | hc
        · exact ⟨.head _, by simpa using hx⟩
        · exact ⟨.tail _ (ih (.head _) hc).1, (ih (.head _) hc).2⟩
      · exact ⟨.tail _ (ih (.tail _ hmem) hc).1, (ih (.tail _ hmem) hc).2⟩

theorem splitOn_of_mem {a : Char} : ∀ {cs : List Char}, ∀ c ∈ cs, c = a ∨ ∃ s ∈ cs.splitOn a, c ∈ s
  | x :: cs, c, hc => by
    obtain ⟨first, more, hparts⟩ := List.exists_cons_of_ne_nil (List.splitOn_ne_nil a cs)
    have ih (hc : c ∈ cs) : c = a ∨ ∃ s ∈ first :: more, c ∈ s := hparts ▸ splitOn_of_mem c hc
    rw [List.splitOn_cons_eq_if_modifyHead, hparts]
    split
    · next hx =>
      rcases List.mem_cons.mp hc with rfl | hc
      · exact .inl (by simpa using hx)
      · exact (ih hc).imp_right fun ⟨s, hs, hmem⟩ => ⟨s, .tail _ hs, hmem⟩
    · rcases List.mem_cons.mp hc with rfl | hc
      · exact .inr ⟨_, .head _, .head _⟩
      · refine (ih hc).imp_right fun ⟨s, hs, hmem⟩ => ?_
        rcases List.mem_cons.mp hs with rfl | hs
        · exact ⟨_, .head _, .tail _ hmem⟩
        · exact ⟨s, .tail _ hs, hmem⟩

theorem mem_intercalate {a c : Char} : ∀ {parts : List (List Char)}, c ∈ [a].intercalate parts →
    c = a ∨ ∃ s ∈ parts, c ∈ s
  | [], h => by simp at h
  | [s], h => .inr ⟨s, .head _, by simpa using h⟩
  | s :: s' :: parts, h => by
    rw [List.intercalate_cons_cons, List.mem_append, List.mem_append, List.mem_singleton] at h
    rcases h with (h | h) | h
    · exact .inr ⟨s, .head _, h⟩
    · exact .inl h
    · exact (mem_intercalate h).imp_right fun ⟨t, ht, hc⟩ => ⟨t, .tail _ ht, hc⟩

/-- A text is cut where its front ends. -/
theorem span_append {p : Char → Bool} {xs ys : List Char} (hxs : ∀ x ∈ xs, p x = true)
    (hys : ∀ y, ys.head? = some y → p y = false) : (xs ++ ys).span p = (xs, ys) := by
  rw [List.span_eq_takeWhile_dropWhile, List.takeWhile_append_of_pos hxs, List.dropWhile_append_of_pos hxs]
  cases ys with
  | nil => simp
  | cons y ys => simp [hys y rfl]

theorem failure_bind {α β : Type} (f : α → Option β) : (failure : Option α).bind f = none := rfl

theorem mapM_eq_some_iff {α β : Type} {f : α → Option β} : ∀ {xs : List α} {ys : List β},
    xs.mapM f = some ys ↔ xs.map f = ys.map some
  | [], ys => by cases ys <;> simp
  | x :: xs, [] => by cases h : f x <;> simp [List.mapM_cons, Option.bind_eq_some_iff, h]
  | x :: xs, y :: ys => by
    have ih : xs.mapM f = some ys ↔ xs.map f = ys.map some := mapM_eq_some_iff
    cases h : f x with
    | none => simp [List.mapM_cons, h]
    | some z =>
      simp only [List.mapM_cons, h, Option.pure_def, Option.bind_eq_bind, Option.bind_some, Option.bind_eq_some_iff,
        Option.some.injEq, List.cons.injEq, List.map_cons]
      exact ⟨fun ⟨_, hys, hz, hsame⟩ => ⟨hz, ih.mp (hsame ▸ hys)⟩, fun ⟨hz, hys⟩ => ⟨ys, ih.mpr hys, hz, rfl⟩⟩

end Courier
