import Courier.Config.Environment
import Courier.Proofs.Config.Section

/-! Values put at the end of paths.

    A value that is put somewhere is found there (`atPath_place`), and what stands on a path that neither
    goes on from its own nor leads to it stays (`atPath_place_of_apart`). Of two values one of whose paths
    goes on from the other's, the later one decides (`place_over`, `place_within`); values on paths that
    part may be put in either order (`place_comm`). -/

namespace Courier.Config

open Json (Ordered MembersOrdered)

/-- Neither path leads on to the other's end. -/
def Apart (p q : List String) : Prop := ¬p <+: q ∧ ¬q <+: p

/-- Paths that part begin with different steps, or part behind the first. -/
theorem Apart.cases {k k' : String} {ks ks' : List String} (h : Apart (k :: ks) (k' :: ks')) :
    k ≠ k' ∨ k = k' ∧ Apart ks ks' := by
  by_cases hk : k = k'
  · subst hk
    exact .inr ⟨rfl, by simpa [Apart, List.cons_prefix_cons] using h⟩
  · exact .inl hk

/-! ### Members -/

section Members

variable {key k : String} {f g : Option Json → Json} {ms : List (String × Json)} {v : Json}

/-- The later of two updates of one member goes on from the earlier one. -/
theorem updateMember_twice (key : String) (f g : Option Json → Json) (ms : List (String × Json)) :
    updateMember key f (updateMember key g ms) = updateMember key (fun old => f (some (g old))) ms := by
  induction ms with
  | nil => simp only [updateMember, beq_self_eq_true, if_true]
  | cons entry rest ih =>
    obtain ⟨k, v⟩ := entry
    rw [updateMember, updateMember]
    split
    · next heq => rw [updateMember, if_pos heq]
    split
    · rw [updateMember, if_pos (beq_self_eq_true key)]
    · next hne hle => rw [updateMember, if_neg hne, if_neg hle, ih]

theorem updateMember_congr (h : Members.Sorted ms) (hfg : f (Members.get? key ms) = g (Members.get? key ms)) :
    updateMember key f ms = updateMember key g ms := by
  refine Members.eq_of_get?_eq (updateMember_sorted _ _ h) (updateMember_sorted _ _ h) fun k => ?_
  rw [get?_updateMember h, get?_updateMember h, hfg]

/-- An update that gives a member the value it has changes nothing. -/
theorem updateMember_same (h : Members.Sorted ms) (hv : Members.get? key ms = some v) (hf : f (some v) = v) :
    updateMember key f ms = ms := by
  refine Members.eq_of_get?_eq (updateMember_sorted _ _ h) h fun k => ?_
  rw [get?_updateMember h, hv, hf]
  split
  · next hk => rw [hk, hv]
  · rfl

/-- Two members may be updated in either order. -/
theorem updateMember_comm (h : Members.Sorted ms) (hk : key ≠ k) :
    updateMember key f (updateMember k g ms) = updateMember k g (updateMember key f ms) := by
  have hf : Members.Sorted (updateMember key f ms) := updateMember_sorted _ _ h
  have hg : Members.Sorted (updateMember k g ms) := updateMember_sorted _ _ h
  refine Members.eq_of_get?_eq (updateMember_sorted _ _ hg) (updateMember_sorted _ _ hf) fun n => ?_
  rw [get?_updateMember hg, get?_updateMember hf, get?_updateMember h, get?_updateMember h,
    get?_updateMember h, get?_updateMember h, if_neg hk, if_neg hk.symm]
  by_cases hn : n = key
  · subst hn
    rw [if_pos rfl, if_neg hk, if_pos rfl]
  · rw [if_neg hn, if_neg hn]

end Members

/-! ### Values -/

section Values

variable {root v w : Json} {k : String} {ks p q : List String}

theorem get?_members (root : Json) (k : String) : Members.get? k (root.members?.getD []) = root.get? k := by
  cases root <;> rfl

theorem members_sorted (h : root.Ordered) : Members.Sorted (root.members?.getD []) := by
  cases root with
  | object ms => exact h.1
  | _ => exact .nil

/-- What a member holds, or an empty object in its place. -/
theorem member_ordered (h : root.Ordered) (k : String) : ((root.get? k).getD .emptyObject).Ordered := by
  have hempty : Json.emptyObject.Ordered := ⟨.nil, trivial⟩
  cases root with
  | object ms =>
    cases hv : Members.get? k ms with
    | none => rwa [Json.get?, hv]
    | some v =>
      rw [Json.get?, hv]
      exact h.2.get? hv
  | _ => exact hempty

theorem get?_place (h : root.Ordered) (n : String) : (place v (k :: ks) root).get? n
    = if n = k then some (place v ks ((root.get? k).getD .emptyObject)) else root.get? n := by
  rw [place, Json.get?, get?_updateMember (members_sorted h), get?_members, get?_members]

theorem place_ordered (hv : v.Ordered) : ∀ (p : List String) {root : Json}, root.Ordered → (place v p root).Ordered
  | [], _, _ => hv
  | k :: ks, root, h => by
    refine ⟨updateMember_sorted _ _ (members_sorted h), updateMember_ordered (fun old hold => ?_) ?_⟩
    · refine place_ordered hv ks ?_
      cases old with
      | none => exact ⟨.nil, trivial⟩
      | some j => exact hold j rfl
    · cases root with
      | object ms => exact h.2
      | _ => trivial

/-- What is put at a place is found there. -/
theorem atPath_place : ∀ (p : List String) {root : Json}, root.Ordered → atPath (place v p root) p = some v
  | [], _, _ => rfl
  | k :: ks, root, h => by
    rw [atPath, get?_place h, if_pos rfl]
    exact atPath_place ks (member_ordered h k)

/-- There is nothing at the end of a path within an empty object. -/
theorem atPath_emptyObject (h : p ≠ []) : atPath .emptyObject p = none := by
  cases p with
  | nil => exact absurd rfl h
  | cons k ks => rfl

/-- What stands elsewhere stays. -/
theorem atPath_place_of_apart : ∀ {p q : List String} {root : Json}, Apart p q → root.Ordered →
    atPath (place v q root) p = atPath root p
  | [], q, _, h, _ => absurd List.nil_prefix h.1
  | p, [], _, h, _ => absurd List.nil_prefix h.2
  | k :: ks, k' :: ks', root, h, hroot => by
    rw [atPath, atPath, get?_place hroot]
    rcases h.cases with hk | ⟨rfl, hks⟩
    · rw [if_neg hk]
    · rw [if_pos rfl]
      have hrest := atPath_place_of_apart hks (member_ordered hroot k)
      cases hu : root.get? k with
      | some u =>
        rw [hu] at hrest
        exact hrest
      | none =>
        -- The path is cut off here, before and after.
        rw [hu] at hrest
        exact hrest.trans (atPath_emptyObject fun hnil => hks.1 (hnil ▸ List.nil_prefix))

/-- A value that is put in its own place changes nothing. -/
theorem place_same : ∀ {p : List String} {root : Json}, root.Ordered → atPath root p = some v →
    place v p root = root
  | [], _, _, h => (Option.some.inj h).symm
  | k :: ks, root, hroot, h => by
    rw [atPath] at h
    cases root with
    | object ms =>
      rw [Json.get?] at h
      cases hu : Members.get? k ms with
      | none => rw [hu] at h; cases h
      | some u =>
        rw [hu] at h
        exact congrArg Json.object (updateMember_same hroot.1 hu (place_same (hroot.2.get? hu) h))
    | _ => cases h

/-- Whatever is put there, a value takes the place of all that was below. -/
theorem place_over (v w : Json) (q : List String) : ∀ (p : List String) (root : Json),
    place v p (place w (p ++ q) root) = place v p root
  | [], _ => rfl
  | k :: ks, root => by
    have hrest : ∀ old : Option Json, place v ks (place w (ks ++ q) (old.getD .emptyObject))
        = place v ks (old.getD .emptyObject) := fun old => place_over v w q ks _
    rw [List.cons_append, place, place, place]
    refine congrArg Json.object ((updateMember_twice _ _ _ _).trans ?_)
    simp only [Option.getD_some, hrest]

/-- What is put below the place of a value is put into the value. -/
theorem place_within (v w : Json) (q : List String) : ∀ (p : List String) (root : Json),
    place w (p ++ q) (place v p root) = place (place w q v) p root
  | [], _ => rfl
  | k :: ks, root => by
    have hrest : ∀ old : Option Json, place w (ks ++ q) (place v ks (old.getD .emptyObject))
        = place (place w q v) ks (old.getD .emptyObject) := fun old => place_within v w q ks _
    rw [List.cons_append, place, place, place]
    refine congrArg Json.object ((updateMember_twice _ _ _ _).trans ?_)
    simp only [Option.getD_some, hrest]

/-- Values on paths that part may be put in either order. -/
theorem place_comm (v w : Json) : ∀ {p q : List String} {root : Json}, Apart p q → root.Ordered →
    place v p (place w q root) = place w q (place v p root)
  | [], q, _, h, _ => absurd List.nil_prefix h.1
  | p, [], _, h, _ => absurd List.nil_prefix h.2
  | k :: ks, k' :: ks', root, h, hroot => by
    rw [place, place, place, place]
    refine congrArg Json.object ?_
    rcases h.cases with hk | ⟨rfl, hks⟩
    · exact updateMember_comm (members_sorted hroot) hk
    · refine (updateMember_twice _ _ _ _).trans (Eq.trans ?_ (updateMember_twice _ _ _ _).symm)
      refine updateMember_congr (members_sorted hroot) ?_
      rw [get?_members]
      exact place_comm v w hks (member_ordered hroot k)

/-- All that a path comes by before its end is an object. -/
theorem object_of_atPath (h : atPath root q = some v) (hp : p <+: q) (hne : p ≠ q) :
    ∃ ms, atPath root p = some (.object ms) := by
  obtain ⟨rest, rfl⟩ := hp
  rw [atPath_append] at h
  obtain ⟨u, hu, hrest⟩ := Option.bind_eq_some_iff.mp h
  cases rest with
  | nil => exact absurd (List.append_nil p).symm hne
  | cons k ks =>
    cases u with
    | object ms => exact ⟨ms, hu⟩
    | _ => cases hrest

end Values
end Courier.Config
