import Courier.Proofs.Config.Merge
import Mathlib.Data.List.DropRight

/-! Sections of settings, and the keys in them.

    A key can be read by itself or looked up in the section it belongs to. Read by itself it is laid
    together from all documents that have it. In its section only those count that stand behind the last
    one to put something else than an object in its way: the section, as a value, was replaced there
    (`raw_section`). So both ways of reading agree as long as nothing is put in the way of the key. -/

namespace Courier.Config

open Json (Ordered)

/-- Settings from documents with their names, each overriding those before it. -/
def ofDocuments (layers : List (String × Json)) : Config := layers.map fun l => .ofDocument l.1 l.2

/-- What the documents have at the end of a path, each laid over those before it. -/
def layered (layers : List (String × Json)) (path : List String) : Option Json :=
  layers.foldl (fun found l => overlaid found (atPath l.2 path)) none

/-- Whether the document has something in its section that hides what the documents before it have at
    the end of a path within the section. -/
def hidesWithin (whole part : List String) (layer : String × Json) : Bool :=
  (atPath layer.2 whole).any fun v => hides v part

/-! ### Keys and paths -/

/-- A key continued behind a dot is the path continued. -/
theorem steps_dot (k r : String) : steps (k ++ "." ++ r) = steps k ++ steps r := by
  have hchars : (k ++ "." ++ r).toList = k.toList ++ '.' :: r.toList := by simp
  rw [steps, hchars, List.splitOn_append_cons_self, List.map_append]
  rfl

theorem atPath_append (j : Json) (path rest : List String) :
    atPath j (path ++ rest) = (atPath j path).bind fun v => atPath v rest := by
  induction path generalizing j with
  | nil => rfl
  | cons k ks ih =>
    rw [List.cons_append, atPath, atPath]
    cases j.get? k with
    | none => rfl
    | some v => exact ih v

theorem atPath_ordered {j v : Json} {path : List String} (hj : j.Ordered) (h : atPath j path = some v) :
    v.Ordered := by
  induction path generalizing j with
  | nil =>
    cases h
    exact hj
  | cons k ks ih =>
    rw [atPath] at h
    cases hu : j.get? k with
    | none => rw [hu] at h; cases h
    | some u =>
      rw [hu] at h
      cases j with
      | object ms => exact ih (hj.2.get? hu) h
      | _ => cases hu

/-! ### Layers -/

section Layers

variable {layers : List (String × Json)} {layer : String × Json} {path whole part : List String}

theorem layered_concat : layered (layers ++ [layer]) path
    = overlaid (layered layers path) (atPath layer.2 path) := by
  rw [layered, List.foldl_concat]
  rfl

/-- Documents answer a key with what they have at the end of its path. -/
theorem raw_ofDocuments (layers : List (String × Json)) (key : String) :
    (ofDocuments layers).raw key = .ok (layered layers (steps key)) := by
  have hfrom : ∀ (layers : List (String × Json)) (found : Option Json), rawFrom key (ofDocuments layers) found
      = .ok (layers.foldl (fun found l => overlaid found (atPath l.2 (steps key))) found) := by
    intro layers
    induction layers with
    | nil => exact fun _ => rfl
    | cons l layers ih =>
      intro found
      have hlayers : ofDocuments (l :: layers) = .ofDocument l.1 l.2 :: ofDocuments layers := rfl
      have hlookup : lookup l.2 key = atPath l.2 (steps key) := rfl
      rw [hlayers, rawFrom, List.foldl_cons, ← ih]
      simp only [Provider.ofDocument, hlookup]
      cases atPath l.2 (steps key) <;> rfl
  exact hfrom layers none

theorem layered_ordered (h : ∀ l ∈ layers, l.2.Ordered) : ∀ j ∈ layered layers path, j.Ordered := by
  induction layers using List.reverseRecOn with
  | nil => nofun
  | append_singleton layers l ih =>
    intro j hj
    have hlayers := ih fun l' hl' => h l' (List.mem_append_left _ hl')
    rw [layered_concat] at hj
    cases hv : atPath l.2 path with
    | none =>
      rw [hv] at hj
      exact hlayers j hj
    | some v =>
      have hordered : v.Ordered := atPath_ordered (h l (by simp)) hv
      rw [hv] at hj
      cases hfound : layered layers path with
      | none =>
        rw [hfound] at hj
        cases hj
        exact hordered
      | some base =>
        rw [hfound] at hj
        cases hj
        exact merge_ordered v (hlayers base hfound) hordered

/-- Within a section a value is seen over what was there before, or hides it. -/
theorem overlaid_bind {found : Option Json} {v : Json} (hfound : ∀ j ∈ found, j.Ordered) (hv : v.Ordered)
    (part : List String) : ((overlaid found (some v)).bind fun j => atPath j part)
      = if hides v part then none else overlaid (found.bind fun j => atPath j part) (atPath v part) := by
  cases found with
  | none => exact (atPath_alone v part).symm
  | some base => exact atPath_merge (hfound base rfl) hv part

/-- In a section those documents count that stand behind the last one to hide what was there. -/
theorem layered_within (h : ∀ l ∈ layers, l.2.Ordered) (whole part : List String) :
    ((layered layers whole).bind fun j => atPath j part)
      = layered (layers.rtakeWhile fun l => !hidesWithin whole part l) (whole ++ part) := by
  induction layers using List.reverseRecOn with
  | nil => rfl
  | append_singleton layers l ih =>
    have hlayers : ∀ l' ∈ layers, l'.2.Ordered := fun l' hl' => h l' (List.mem_append_left _ hl')
    have hrest := ih hlayers
    -- the last document has no such section, or its section hides the place, or it lies over the others
    rw [layered_concat, List.rtakeWhile_concat, hidesWithin]
    cases hv : atPath l.2 whole with
    | none =>
      have hmissing : atPath l.2 (whole ++ part) = none := by rw [atPath_append, hv]; rfl
      rw [overlaid, Option.any_none, Bool.not_false, if_pos rfl, layered_concat, hmissing, overlaid, hrest]
    | some v =>
      have hordered : v.Ordered := atPath_ordered (h l (by simp)) hv
      have hpart : atPath l.2 (whole ++ part) = atPath v part := by rw [atPath_append, hv]; rfl
      rw [overlaid_bind (layered_ordered hlayers) hordered, Option.any_some, hrest]
      cases hides v part with
      | true => rfl
      | false => rw [if_neg Bool.false_ne_true, Bool.not_false, if_pos rfl, layered_concat, hpart]

end Layers

/-- The section of a key holds, at the end of the rest of the key, what the documents behind the last one
    that hides this place say to the whole key. If none does, that is what all of them say to it. -/
theorem raw_section (layers : List (String × Json)) (h : ∀ l ∈ layers, l.2.Ordered) (k r : String) :
    ∃ whole, (ofDocuments layers).raw k = .ok whole ∧
      (ofDocuments (layers.rtakeWhile fun l => !hidesWithin (steps k) (steps r) l)).raw (k ++ "." ++ r)
        = .ok (whole.bind fun j => lookup j r) ∧
      ((∀ l ∈ layers, hidesWithin (steps k) (steps r) l = false) →
        (ofDocuments layers).raw (k ++ "." ++ r) = .ok (whole.bind fun j => lookup j r)) := by
  have hwithin := layered_within h (steps k) (steps r)
  refine ⟨layered layers (steps k), raw_ofDocuments layers k, ?_, fun hnone => ?_⟩
  · rw [raw_ofDocuments, steps_dot, ← hwithin]
    rfl
  · have hall : layers.rtakeWhile (fun l => !hidesWithin (steps k) (steps r) l) = layers := by
      refine List.rtakeWhile_eq_self_iff.mpr fun l hl => ?_
      rw [hnone l hl]
      rfl
    rw [hall] at hwithin
    rw [raw_ofDocuments, steps_dot, ← hwithin]
    rfl

/-- A section, and a document behind it that puts null in its place. -/
def replaced : List (String × Json) :=
  [("file", .object [("orders", .object [("retries", .ofNat 3)])]), ("env", .object [("orders", .null)])]

/-- The section is null, and there is nothing in it, but the key itself still has its value. -/
theorem raw_of_replaced : (ofDocuments replaced).raw "orders" = .ok (some .null) ∧
    (some Json.null).bind (fun j => lookup j "retries") = none ∧
    (ofDocuments replaced).raw "orders.retries" = .ok (some (.ofNat 3)) ∧
    ∃ whole, (ofDocuments replaced).raw "orders" = .ok whole ∧
      (ofDocuments (replaced.rtakeWhile fun l => !hidesWithin (steps "orders") (steps "retries") l)).raw
        ("orders" ++ "." ++ "retries") = .ok (whole.bind fun j => lookup j "retries") := by
  have hordered : ∀ l ∈ replaced, l.2.Ordered := by
    simp [replaced, Ordered, Json.ofNat, Json.MembersOrdered, Members.Sorted]
  obtain ⟨whole, hwhole, hpart, -⟩ := raw_section replaced hordered "orders" "retries"
  exact ⟨rfl, rfl, rfl, whole, hwhole, hpart⟩

end Courier.Config
