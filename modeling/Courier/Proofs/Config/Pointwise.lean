import Courier.Proofs.Config.Merge

/-! What a merged value has at every place.

    At the end of a path a merged value has what the second of the two values has there, over what the
    first has; below something that is no object in the second, it has nothing (`merge_pointwise`). So a
    value laid over itself is the value again, and an empty object laid over an object adds nothing. -/

namespace Courier.Config

open Json (Ordered)

/-- What is found at the end of a path where the second value is laid over the first. -/
structure SeenOver (base overlay : Json) (path : List String) (found : Option Json) : Prop where
  /-- Of two objects, the second laid over the first. -/
  objects : ∀ u v, atPath base path = some u → atPath overlay path = some v → u.isObject = true →
    v.isObject = true → found = some (merge u v)
  /-- What the second value has there, if these are not two objects. -/
  upper : ∀ v, atPath overlay path = some v →
    ¬((∃ u, atPath base path = some u ∧ u.isObject = true) ∧ v.isObject = true) → found = some v
  /-- Nothing, if the second value has nothing there, but something on the way that is no object. -/
  obstructed : atPath overlay path = none → Obstructed overlay path → found = none
  /-- What the first value has there, if anything, where the second has nothing in its way. -/
  lower : atPath overlay path = none → ¬Obstructed overlay path → found = atPath base path

/-- Of two values one of which is no object, the second takes the place of the first. -/
theorem merge_of_not_both {u v : Json} (h : ¬(u.isObject = true ∧ v.isObject = true)) : merge u v = v := by
  cases v with
  | object ms =>
    cases u with
    | object ls => exact absurd ⟨rfl, rfl⟩ h
    | _ => rfl
  | _ => exact merge_of_not_object rfl

/-- Where the overlay has something, it is seen over what was there. -/
theorem atPath_merge_of_some {base overlay v : Json} (hbase : base.Ordered) (hoverlay : overlay.Ordered)
    {path : List String} (hv : atPath overlay path = some v) :
    atPath (merge base overlay) path = overlaid (atPath base path) (some v) := by
  have hopen : ¬hides overlay path = true := fun hhides => by
    rw [atPath_of_hides overlay path hhides] at hv
    cases hv
  rw [atPath_merge hbase hoverlay, if_neg hopen, hv]

theorem seenOver_merge {base overlay : Json} (hbase : base.Ordered) (hoverlay : overlay.Ordered)
    (path : List String) : SeenOver base overlay path (atPath (merge base overlay) path) where
  objects u v hu hv _ _ := by
    rw [atPath_merge_of_some hbase hoverlay hv, hu]
    rfl
  upper v hv hnot := by
    rw [atPath_merge_of_some hbase hoverlay hv]
    cases hu : atPath base path with
    | none => rfl
    | some u => exact congrArg some (merge_of_not_both fun hboth => hnot ⟨⟨u, hu, hboth.1⟩, hboth.2⟩)
  obstructed _ hway := by rw [atPath_merge hbase hoverlay, if_pos (hides_iff.mpr hway)]
  lower hnone hway := by
    rw [atPath_merge hbase hoverlay, if_neg fun hhides => hway (hides_iff.mp hhides), hnone]
    rfl

/-- A value laid over itself changes nothing. -/
theorem merge_self {j : Json} (h : j.Ordered) : merge j j = j := by
  induction j using Json.memberwise with
  | other j hkind => exact merge_of_not_object hkind
  | object ms ih =>
    obtain ⟨hsorted, hvalues⟩ := h
    have hmerged := (mergeMembers_ordered ms hsorted hvalues hvalues).1
    rw [merge]
    refine congrArg Json.object (Members.eq_of_get?_eq hmerged hsorted fun key => ?_)
    rw [get?_mergeMembers hsorted hsorted]
    -- what the key holds is laid over itself, and is smaller
    cases hv : Members.get? key ms with
    | none => rfl
    | some v => exact congrArg some (ih key v hv (hvalues.get? hv))

/-- What a merged value has at the end of any path follows from what the two values have there and, for
    the second, on the way; laying a value over itself, or an empty object over an object, changes
    nothing. -/
theorem merge_pointwise :
    (∀ base overlay : Json, base.Ordered → overlay.Ordered →
      ∀ path, SeenOver base overlay path (atPath (merge base overlay) path)) ∧
    (∀ j : Json, j.Ordered → merge j j = j) ∧
    ∀ j : Json, j.isObject = true → merge j .emptyObject = j := by
  refine ⟨fun _ _ hbase hoverlay path => seenOver_merge hbase hoverlay path, fun _ h => merge_self h,
    fun j hobject => ?_⟩
  cases j with
  | object ms => rfl
  | _ => cases hobject

/-- Settings of all clients. -/
def general : Json := .object [("interceptors", .array []), ("logger", .object [("level", .string "debug")]),
  ("retry", .object [("max_retries", .ofNat 3)]), ("target", .string "http://a")]

/-- Settings of one client, with values of other kinds in two places. -/
def special : Json := .object [("interceptors", .object []), ("logger", .null),
  ("retry", .object [("backoff_ms", .ofNat 7)])]

theorem general_ordered : general.Ordered := by decide

theorem special_ordered : special.Ordered := by decide

/-- Objects are laid over objects, others are replaced with all that is below, and the rest is kept. -/
theorem general_and_special : general.Ordered ∧ special.Ordered ∧
    atPath (merge general special) ["retry"]
      = some (.object [("backoff_ms", .ofNat 7), ("max_retries", .ofNat 3)]) ∧
    atPath (merge general special) ["interceptors"] = some .emptyObject ∧
    atPath (merge general special) ["logger", "level"] = none ∧
    atPath (merge general special) ["target"] = some (.string "http://a") ∧
    merge general general = general ∧ general.isObject = true ∧ merge general .emptyObject = general := by
  obtain ⟨hseen, hself, hempty⟩ := merge_pointwise
  have hat := hseen general special general_ordered special_ordered
  refine ⟨general_ordered, special_ordered, (hat ["retry"]).objects _ _ rfl rfl rfl rfl,
    (hat ["interceptors"]).upper _ rfl ?_, (hat ["logger", "level"]).obstructed rfl ?_,
    (hat ["target"]).lower rfl ?_, hself general general_ordered, rfl, hempty general rfl⟩
  · rintro ⟨⟨u, hu, hobject⟩, -⟩
    cases hu
    cases hobject
  · exact ⟨["logger"], "level", [], .null, rfl, rfl, rfl⟩
  · rw [← hides_iff]
    exact Bool.false_ne_true

end Courier.Config
