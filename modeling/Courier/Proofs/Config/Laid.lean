import Courier.Proofs.Config.Merge
import Mathlib.Data.List.Induction

/-! Values laid one over the other.

    It matters in what order that is done. If something that is no object is laid over an object, and
    then an object over that, the first object is gone; but if the last two are laid together first, the
    first object is seen below them again. As long as no value has an object where one before it has
    something else, laying them together in groups makes no difference (`laid_append`). -/

namespace Courier.Config

open Json (Ordered MembersOrdered)

/-- Values laid together, each over those before it. -/
def laid (values : List Json) : Option Json := values.foldl (fun found v => overlaid found (some v)) none

/-- Whether the second value has an object in the place of something else in the first. -/
def Restores (base overlay : Json) : Prop :=
  ∃ path old new, atPath base path = some old ∧ old.isObject = false ∧
    atPath overlay path = some new ∧ new.isObject = true

/-! ### One value over another -/

section Values

variable {a b c u v : Json}

/-- What holds an object instead of something else below a key does so at the end of a longer path. -/
theorem Restores.below {key : String} {ms os : List (String × Json)} (hu : Members.get? key ms = some u)
    (hv : Members.get? key os = some v) : Restores u v → Restores (.object ms) (.object os)
  | ⟨path, old, new, hold, hkind, hnew, hobject⟩ => by
    refine ⟨key :: path, old, new, ?_, hkind, ?_, hobject⟩
    · rw [atPath, Json.get?, hu]
      exact hold
    · rw [atPath, Json.get?, hv]
      exact hnew

/-- Of three values the last two may be laid together first, unless the last restores something. -/
theorem merge_assoc (c : Json) {a b : Json} (ha : a.Ordered) (hb : b.Ordered) (hc : c.Ordered)
    (hkeeps : ¬Restores b c) : merge (merge a b) c = merge a (merge b c) := by
  induction c using Json.memberwise generalizing a b with
  | other c hkind => rw [merge_of_not_object hkind, merge_of_not_object hkind, merge_of_not_object hkind]
  | object os ih =>
    obtain ⟨hos, hlaid⟩ := hc
    cases b with
    | object ms =>
      obtain ⟨hms, hvalues⟩ := hb
      cases a with
      | object ls =>
        obtain ⟨hls, hbelow⟩ := ha
        obtain ⟨hupper, hupperValues⟩ := mergeMembers_ordered os hms hvalues hlaid
        obtain ⟨hlower, hlowerValues⟩ := mergeMembers_ordered ms hls hbelow hvalues
        have hsorted := (mergeMembers_ordered os hlower hlowerValues hlaid).1
        have hsorted' := (mergeMembers_ordered (mergeMembers ms os) hls hbelow hupperValues).1
        simp only [merge]
        refine congrArg Json.object (Members.eq_of_get?_eq hsorted hsorted' fun key => ?_)
        rw [get?_mergeMembers hlower hos, get?_mergeMembers hls hms, get?_mergeMembers hls hupper,
          get?_mergeMembers hms hos]
        -- the values of the key are laid together in the same way, and are smaller
        cases hw : Members.get? key os with
        | none => rfl
        | some w =>
          cases hu : Members.get? key ms with
          | none => rfl
          | some u =>
            cases ht : Members.get? key ls with
            | none => rfl
            | some t =>
              have hvalue := ih key w hw (hbelow.get? ht) (hvalues.get? hu) (hlaid.get? hw)
                fun hrestores => hkeeps (hrestores.below hu hw)
              exact congrArg some hvalue
      | _ => rfl
    | _ => exact absurd ⟨[], _, _, rfl, rfl, rfl, rfl⟩ hkeeps

/-- What two values laid together have at the end of a path, one of them has there, unless it is an
    object. -/
theorem atPath_merge_of_not_object {path : List String} (ha : a.Ordered) (hb : b.Ordered)
    (hu : u.isObject = false) (h : atPath (merge a b) path = some u) :
    atPath a path = some u ∨ atPath b path = some u := by
  rw [atPath_merge ha hb] at h
  split at h
  · cases h
  cases hv : atPath b path with
  | none =>
    rw [hv] at h
    exact .inl h
  | some v =>
    rw [hv] at h
    cases hw : atPath a path with
    | none =>
      rw [hw] at h
      exact .inr h
    | some w =>
      rw [hw] at h
      cases v with
      | object ms =>
        -- an object laid over anything is an object
        cases w <;> cases h <;> cases hu
      | _ => exact .inr h

end Values

/-! ### Many values -/

section Many

variable {values : List Json} {v : Json}

theorem laid_concat (values : List Json) (v : Json) :
    laid (values ++ [v]) = overlaid (laid values) (some v) := by
  rw [laid, List.foldl_append]
  rfl

theorem laid_ordered (h : ∀ j ∈ values, j.Ordered) : ∀ j ∈ laid values, j.Ordered := by
  induction values using List.reverseRecOn with
  | nil => nofun
  | append_singleton values v ih =>
    intro j hj
    have hv : v.Ordered := h v (by simp)
    have hvalues := ih fun u hu => h u (List.mem_append_left _ hu)
    rw [laid_concat] at hj
    cases hfound : laid values with
    | none =>
      rw [hfound] at hj
      cases hj
      exact hv
    | some base =>
      rw [hfound] at hj
      cases hj
      exact merge_ordered v (hvalues base hfound) hv

/-- Something that is no object replaces all that was before it. -/
theorem laid_of_last (hlast : values.getLast? = some v) (hv : v.isObject = false) :
    laid values = some v := by
  obtain ⟨before, rfl⟩ := List.getLast?_eq_some_iff.mp hlast
  rw [laid_concat]
  cases laid before with
  | none => rfl
  | some base => exact congrArg some (merge_of_not_object hv)

/-- What values laid together have at the end of a path, one of them has there, unless it is an object. -/
theorem atPath_laid_of_not_object {j u : Json} {path : List String} (hordered : ∀ v ∈ values, v.Ordered)
    (hu : u.isObject = false) (hj : laid values = some j) (h : atPath j path = some u) :
    ∃ v ∈ values, atPath v path = some u := by
  induction values using List.reverseRecOn generalizing j with
  | nil => cases hj
  | append_singleton values v ih =>
    have hvalues : ∀ v ∈ values, v.Ordered := fun v hv => hordered v (List.mem_append_left _ hv)
    have hlast : v ∈ values ++ [v] := List.mem_append_right _ (List.mem_singleton_self v)
    rw [laid_concat] at hj
    cases hfound : laid values with
    | none =>
      rw [hfound] at hj
      cases hj
      exact ⟨v, hlast, h⟩
    | some base =>
      rw [hfound] at hj
      cases hj
      rcases atPath_merge_of_not_object (laid_ordered hvalues base hfound) (hordered v hlast) hu h with hbase | hv
      · obtain ⟨w, hw, hpath⟩ := ih hvalues hfound hbase
        exact ⟨w, List.mem_append_left _ hw, hpath⟩
      · exact ⟨v, hlast, hv⟩

theorem not_restores_laid (hordered : ∀ j ∈ values, j.Ordered) (h : ∀ u ∈ values, ¬Restores u v) :
    ∀ j ∈ laid values, ¬Restores j v := by
  rintro j hj ⟨path, old, new, hold, hkind, hnew, hobject⟩
  obtain ⟨u, hu, hpath⟩ := atPath_laid_of_not_object hordered hkind hj hold
  exact h u hu ⟨path, old, new, hpath, hkind, hnew, hobject⟩

theorem overlaid_assoc {below found : Option Json} (hbelow : ∀ j ∈ below, j.Ordered)
    (hfound : ∀ j ∈ found, j.Ordered) (hv : v.Ordered) (hkeeps : ∀ j ∈ found, ¬Restores j v) :
    overlaid (overlaid below found) (some v) = overlaid below (overlaid found (some v)) := by
  cases found with
  | none => rfl
  | some b =>
    cases below with
    | none => rfl
    | some a => exact congrArg some (merge_assoc v (hbelow a rfl) (hfound b rfl) hv (hkeeps b rfl))

/-- Values may be laid together in two groups, unless one in the second group has an object where one
    before it in this group has something else. -/
theorem laid_append {upper : List Json} (hvalues : ∀ j ∈ values, j.Ordered) (hupper : ∀ j ∈ upper, j.Ordered)
    (hkeeps : upper.Pairwise fun u v => ¬Restores u v) :
    laid (values ++ upper) = overlaid (laid values) (laid upper) := by
  induction upper using List.reverseRecOn with
  | nil => rw [List.append_nil]; rfl
  | append_singleton upper v ih =>
    obtain ⟨hbefore, -, hlast⟩ := List.pairwise_append.mp hkeeps
    have hordered : ∀ j ∈ upper, j.Ordered := fun j hj => hupper j (List.mem_append_left _ hj)
    have hkept : ∀ j ∈ laid upper, ¬Restores j v :=
      not_restores_laid hordered fun u hu => hlast u hu v (List.mem_singleton_self v)
    rw [← List.append_assoc, laid_concat, laid_concat, ih hordered hbefore]
    exact overlaid_assoc (laid_ordered hvalues) (laid_ordered hordered) (hupper v (by simp)) hkept

end Many

end Courier.Config
