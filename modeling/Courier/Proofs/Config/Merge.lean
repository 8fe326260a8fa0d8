import Courier.Config.Basic
import Courier.Proofs.Json.Ordered

/-! Values laid over values, seen along a path.

    A value that is laid over another changes what stands at the end of a path only if it has something
    there itself, or has something on the way there that is no object and hides all that was below
    (`atPath_merge`). -/

namespace Courier.Config

open Json (Ordered MembersOrdered)

/-- A value that may be missing, laid over another that may be. -/
def overlaid (found : Option Json) : Option Json → Option Json
  | none => found
  | some v => some (match found with
    | some base => merge base v
    | none => v)

/-- Whether the path comes by something that is no object before its end: what was there before, at the
    end of the path, is then hidden. -/
def hides : Json → List String → Bool
  | _, [] => false
  | .object ms, k :: ks => match Members.get? k ms with
    | some v => hides v ks
    | none => false
  | _, _ :: _ => true

/-- Something that is no object stands on the path before its end. -/
def Obstructed (j : Json) (path : List String) : Prop :=
  ∃ before key after v, path = before ++ key :: after ∧ atPath j before = some v ∧ v.isObject = false

theorem overlaid_none_left (v : Option Json) : overlaid none v = v := by
  cases v <;> rfl

/-- There is nothing at the end of a path that is cut off. -/
theorem atPath_of_hides : ∀ (j : Json) (path : List String), hides j path → atPath j path = none
  | .object ms, k :: ks, h => by
    rw [hides] at h
    rw [atPath, Json.get?]
    cases hv : Members.get? k ms with
    | none => rfl
    | some v =>
      rw [hv] at h
      exact atPath_of_hides v ks h
  | .null, _ :: _, _ => rfl
  | .bool _, _ :: _, _ => rfl
  | .number _, _ :: _, _ => rfl
  | .string _, _ :: _, _ => rfl
  | .array _, _ :: _, _ => rfl

/-- A path is cut off where something stands on its way that is no object. -/
theorem obstructed_of_hides : ∀ (j : Json) (path : List String), hides j path = true → Obstructed j path
  | .object ms, k :: ks, h => by
    rw [hides] at h
    cases hv : Members.get? k ms with
    | none => rw [hv] at h; cases h
    | some v =>
      rw [hv] at h
      obtain ⟨before, key, after, u, hks, hu, hkind⟩ := obstructed_of_hides v ks h
      refine ⟨k :: before, key, after, u, by rw [hks, List.cons_append], ?_, hkind⟩
      rw [atPath, Json.get?, hv]
      exact hu
  | .null, k :: ks, _ => ⟨[], k, ks, _, rfl, rfl, rfl⟩
  | .bool _, k :: ks, _ => ⟨[], k, ks, _, rfl, rfl, rfl⟩
  | .number _, k :: ks, _ => ⟨[], k, ks, _, rfl, rfl, rfl⟩
  | .string _, k :: ks, _ => ⟨[], k, ks, _, rfl, rfl, rfl⟩
  | .array _, k :: ks, _ => ⟨[], k, ks, _, rfl, rfl, rfl⟩

theorem hides_of_atPath {key : String} {after : List String} : ∀ {before : List String} {j v : Json},
    atPath j before = some v → v.isObject = false → hides j (before ++ key :: after) = true
  | [], j, v, h, hkind => by
    cases h
    cases j with
    | object ms => cases hkind
    | _ => rfl
  | k :: ks, j, v, h, hkind => by
    cases j with
    | object ms =>
      rw [atPath, Json.get?] at h
      rw [List.cons_append, hides]
      cases hu : Members.get? k ms with
      | none => rw [hu] at h; cases h
      | some u =>
        rw [hu] at h
        exact hides_of_atPath h hkind
    | _ => cases h

theorem hides_iff {j : Json} {path : List String} : hides j path = true ↔ Obstructed j path := by
  refine ⟨obstructed_of_hides j path, ?_⟩
  rintro ⟨before, key, after, v, rfl, hv, hkind⟩
  exact hides_of_atPath hv hkind

/-! ### Members -/

section Members

variable {key k : String} {f : Option Json → Json} {ms base overlay : List (String × Json)}

/-- An update leaves the keys that setting a value does. -/
theorem updateMember_keys (key : String) (f : Option Json → Json) (v : Json) (ms : List (String × Json)) :
    (updateMember key f ms).map Prod.fst = (Members.insert key v ms).map Prod.fst := by
  induction ms with
  | nil => rfl
  | cons entry rest ih =>
    obtain ⟨k, old⟩ := entry
    rw [updateMember, Members.insert]
    split
    · next heq => rw [eq_of_beq heq, List.map_cons, List.map_cons]
    split
    · rfl
    · rw [List.map_cons, List.map_cons, ih]

theorem updateMember_sorted (key : String) (f : Option Json → Json) (h : Members.Sorted ms) :
    Members.Sorted (updateMember key f ms) := by
  rw [Members.Sorted, updateMember_keys key f .null]
  exact Members.insert_sorted key .null h

/-- An update is seen at its own key and nowhere else. -/
theorem get?_updateMember (h : Members.Sorted ms) : Members.get? k (updateMember key f ms)
    = if k = key then some (f (Members.get? key ms)) else Members.get? k ms := by
  induction ms with
  | nil =>
    rw [updateMember]
    split
    · next hk => rw [hk, Members.get?_cons_self, Members.get?]
    · next hk => rw [Members.get?_cons_of_ne (Ne.symm hk)]
  | cons entry rest ih =>
    obtain ⟨k₀, v⟩ := entry
    obtain ⟨hfirst, hrest⟩ := Members.sorted_cons.mp h
    rw [updateMember]
    split
    · next heq =>
      obtain rfl := eq_of_beq heq
      split
      · next hk => rw [hk, Members.get?_cons_self, Members.get?_cons_self]
      · next hk => rw [Members.get?_cons_of_ne (Ne.symm hk), Members.get?_cons_of_ne (Ne.symm hk)]
    split
    · next hlt =>
      have hmissing : Members.get? key ((k₀, v) :: rest) = none := Members.get?_of_before h hlt
      split
      · next hk => rw [hk, Members.get?_cons_self, hmissing]
      · next hk => rw [Members.get?_cons_of_ne (Ne.symm hk)]
    · next hne _ =>
      have hbehind : k₀ ≠ key := fun heq => hne (beq_iff_eq.mpr heq.symm)
      by_cases hk : k₀ = k
      · subst hk
        rw [Members.get?_cons_self, Members.get?_cons_self, if_neg hbehind]
      · rw [Members.get?_cons_of_ne hk, Members.get?_cons_of_ne hk, Members.get?_cons_of_ne hbehind, ih hrest]

/-- Members laid over others are laid over those of the same keys. -/
theorem get?_mergeMembers (hbase : Members.Sorted base) (hoverlay : Members.Sorted overlay) :
    Members.get? k (mergeMembers base overlay) = overlaid (Members.get? k base) (Members.get? k overlay) := by
  induction overlay generalizing base with
  | nil => rfl
  | cons entry rest ih =>
    obtain ⟨key, v⟩ := entry
    obtain ⟨hfirst, hrest⟩ := Members.sorted_cons.mp hoverlay
    rw [mergeMembers, ih (updateMember_sorted _ _ hbase) hrest, get?_updateMember hbase]
    by_cases hk : k = key
    · subst hk
      rw [if_pos rfl, Members.get?_cons_self, Members.get?_of_lt hfirst]
      cases Members.get? k base <;> rfl
    · rw [if_neg hk, Members.get?_cons_of_ne (Ne.symm hk)]

theorem updateMember_ordered (hf : ∀ old : Option Json, (∀ j ∈ old, j.Ordered) → (f old).Ordered)
    (h : MembersOrdered ms) : MembersOrdered (updateMember key f ms) := by
  induction ms with
  | nil => exact ⟨hf none nofun, trivial⟩
  | cons entry rest ih =>
    obtain ⟨k, v⟩ := entry
    obtain ⟨hv, hrest⟩ := h
    rw [updateMember]
    split
    · refine ⟨hf (some v) fun j hj => ?_, hrest⟩
      cases hj
      exact hv
    split
    · exact ⟨hf none nofun, hv, hrest⟩
    · exact ⟨hv, ih hrest⟩

end Members

/-! ### Values -/

/-- Something that is no object takes the place of what was there. -/
theorem merge_of_not_object {base v : Json} (h : v.isObject = false) : merge base v = v := by
  cases v with
  | object ms => cases h
  | _ =>
    rw [merge]
    intro _ hobject
    cases hobject

mutual

theorem merge_ordered : ∀ (overlay : Json) {base : Json}, base.Ordered → overlay.Ordered →
    (merge base overlay).Ordered
  | .object overlay, .object _, ⟨hsorted, hbase⟩, ⟨_, hoverlay⟩ =>
    mergeMembers_ordered overlay hsorted hbase hoverlay
  | .object _, .null, _, hoverlay => hoverlay
  | .object _, .bool _, _, hoverlay => hoverlay
  | .object _, .number _, _, hoverlay => hoverlay
  | .object _, .string _, _, hoverlay => hoverlay
  | .object _, .array _, _, hoverlay => hoverlay
  | .null, _, _, _ => trivial
  | .bool _, _, _, _ => trivial
  | .number _, _, _, _ => trivial
  | .string _, _, _, _ => trivial
  | .array _, _, _, hoverlay => hoverlay
termination_by structural overlay => overlay

theorem mergeMembers_ordered : ∀ (overlay : List (String × Json)) {base : List (String × Json)},
    Members.Sorted base → MembersOrdered base → MembersOrdered overlay →
    Members.Sorted (mergeMembers base overlay) ∧ MembersOrdered (mergeMembers base overlay)
  | [], _, hsorted, hbase, _ => ⟨hsorted, hbase⟩
  | (k, v) :: rest, base, hsorted, hbase, ⟨hv, hrest⟩ => by
    refine mergeMembers_ordered rest (updateMember_sorted _ _ hsorted)
      (updateMember_ordered (fun old hold => ?_) hbase) hrest
    cases old with
    | none => exact hv
    | some j => exact merge_ordered v (hold j rfl) hv
termination_by structural overlay => overlay

end

/-- With nothing below, a value is seen as it is. -/
theorem atPath_alone (j : Json) (path : List String) :
    (if hides j path then none else overlaid none (atPath j path)) = atPath j path := by
  split
  · next h => exact (atPath_of_hides j path h).symm
  · exact overlaid_none_left _

/-- What is laid over a value is seen at the end of a path over what was there before; if it hides that,
    there is nothing. -/
theorem atPath_merge {base overlay : Json} (hbase : base.Ordered) (hoverlay : overlay.Ordered)
    (path : List String) : atPath (merge base overlay) path
      = if hides overlay path then none else overlaid (atPath base path) (atPath overlay path) := by
  induction path generalizing base overlay with
  | nil => cases overlay <;> rfl
  | cons k ks ih =>
    cases overlay with
    | object members =>
      cases base with
      | object ms =>
        obtain ⟨hms, hvalues⟩ := hbase
        obtain ⟨hmembers, hlaid⟩ := hoverlay
        have hmember : Members.get? k (mergeMembers ms members)
            = overlaid (Members.get? k ms) (Members.get? k members) := get?_mergeMembers hms hmembers
        rw [merge]
        simp only [atPath, Json.get?, hides, hmember]
        obtain hv | ⟨v, hv⟩ := Option.eq_none_or_eq_some (Members.get? k members)
        · simp only [hv, overlaid, Bool.false_eq_true, ↓reduceIte]
        · obtain hu | ⟨u, hu⟩ := Option.eq_none_or_eq_some (Members.get? k ms)
          · simpa only [hv, hu, overlaid] using (atPath_alone v ks).symm
          · simpa only [hv, hu, overlaid] using ih (hvalues.get? hu) (hlaid.get? hv)
      | _ => exact (atPath_alone (.object members) (k :: ks)).symm
    | _ => rfl

end Courier.Config
