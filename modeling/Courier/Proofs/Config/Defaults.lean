import Courier.Config.Properties
import Courier.Proofs.Config.Laid
import Courier.Proofs.Config.Section

/-! Settings of a client over the settings of all clients.

    Each of the two sections is laid together from all documents, in their order, and the section of the
    client is laid over that of all clients as a whole. So at every place in them the values of the one
    section are laid together, and then over the values of the other (`merged_precedence`). That is not
    always what laying all these values one over the other would give. Where the client's section has an
    object in place of something else from an earlier document, only the object is left of the two, and
    what all clients have at this place is seen below it again (`retry_of_revived`). -/

namespace Courier.Config

open Json (Ordered)

/-- What the documents have at the end of a path, in their order. -/
def present (layers : List (String × Json)) (path : List String) : List Json :=
  layers.filterMap fun l => atPath l.2 path

/-- On the way from a section to a place in it all documents have objects, as far as they go. -/
def Clear (layers : List (String × Json)) (whole part : List String) : Prop :=
  ∀ l ∈ layers, ∀ before key after v, part = before ++ key :: after →
    atPath l.2 (whole ++ before) = some v → v.isObject = true

/-! ### What is at a place -/

section Places

variable {layers : List (String × Json)} {whole part path : List String}

theorem layered_eq (layers : List (String × Json)) (path : List String) :
    layered layers path = laid (present layers path) := by
  induction layers using List.reverseRecOn with
  | nil => rfl
  | append_singleton layers l ih =>
    have hpresent : present (layers ++ [l]) path = present layers path ++ (atPath l.2 path).toList := by
      rw [present, List.filterMap_append]
      cases hv : atPath l.2 path <;> simp [present, hv]
    rw [layered_concat, hpresent, ih]
    cases atPath l.2 path with
    | none => rw [Option.toList_none, List.append_nil]; rfl
    | some v => exact (laid_concat _ v).symm

theorem present_ordered (h : ∀ l ∈ layers, l.2.Ordered) : ∀ j ∈ present layers path, j.Ordered := by
  intro j hj
  obtain ⟨l, hl, hv⟩ := List.mem_filterMap.mp hj
  exact atPath_ordered (h l hl) hv

/-- A section that nothing stands in the way of has, at a place in it, what all documents have there. -/
theorem layered_place (h : ∀ l ∈ layers, l.2.Ordered) (hclear : Clear layers whole part) :
    ((layered layers whole).bind fun j => atPath j part) = laid (present layers (whole ++ part)) := by
  have hall : layers.rtakeWhile (fun l => !hidesWithin whole part l) = layers := by
    refine List.rtakeWhile_eq_self_iff.mpr fun l hl => ?_
    rw [Bool.not_eq_true', hidesWithin]
    refine Bool.eq_false_iff.mpr fun hany => ?_
    obtain ⟨v, hv, hhides⟩ := (Option.any_eq_true _ _).mp hany
    obtain ⟨before, key, after, u, hpart, hu, hkind⟩ := hides_iff.mp hhides
    have hpath : atPath l.2 (whole ++ before) = some u := by rw [atPath_append, hv]; exact hu
    rw [hclear l hl before key after u hpart hpath] at hkind
    cases hkind
  rw [layered_within h, hall, layered_eq]

/-- Such a section hides nothing at this place. -/
theorem layered_hides (h : ∀ l ∈ layers, l.2.Ordered) (hclear : Clear layers whole part) {j : Json}
    (hj : layered layers whole = some j) : hides j part = false := by
  refine Bool.eq_false_iff.mpr fun hhides => ?_
  obtain ⟨before, key, after, u, hpart, hu, hkind⟩ := hides_iff.mp hhides
  rw [layered_eq] at hj
  obtain ⟨v, hv, hbefore⟩ := atPath_laid_of_not_object (present_ordered h) hkind hj hu
  obtain ⟨l, hl, hwhole⟩ := List.mem_filterMap.mp hv
  have hpath : atPath l.2 (whole ++ before) = some u := by rw [atPath_append, hwhole]; exact hbefore
  rw [hclear l hl before key after u hpart hpath] at hkind
  cases hkind

end Places

/-! ### The value that settings are read from -/

namespace Properties

/-- The section of a client. -/
def place (name : String) : List String := steps sectionKey ++ [name]

/-- The value the settings of a client are read from. -/
def merged (c : Config) (name : String) : Except ConfigError Json := do
  let defaults ← c.raw (sectionKey ++ "." ++ defaultClient)
  let named ← if name == defaultClient then .ok none else c.raw (sectionKey ++ "." ++ name)
  return match named with
    | some overlay => merge (defaults.getD .emptyObject) overlay
    | none => defaults.getD .emptyObject

/-- The settings in a value. -/
def decoded (name : String) (settings : Json) : Except ConfigError Properties :=
  match decoder.ofJson settings with
  | .ok p => .ok p
  | .error f => .error (.parse ("invalid properties for client '" ++ name ++ "': " ++ f.text))

theorem load_eq (c : Config) (name : String) : load c name = (merged c name).bind (decoded name) := by
  rw [load, merged]
  cases c.raw (sectionKey ++ "." ++ defaultClient) with
  | error e => rfl
  | ok defaults =>
    cases name == defaultClient with
    | true => rfl
    | false =>
      cases c.raw (sectionKey ++ "." ++ name) with
      | error e => rfl
      | ok named => cases named <;> rfl

theorem steps_section {name : String} (hdots : '.' ∉ name.toList) :
    steps (sectionKey ++ "." ++ name) = place name := by
  have hname : steps name = [name] := by
    rw [steps, List.splitOn_eq_singleton hdots]
    exact congrArg (· :: []) String.ofList_toList
  rw [steps_dot, place, hname]

/-- Documents answer with the section of the client, laid over that of all clients if it is there. -/
theorem merged_ofDocuments (layers : List (String × Json)) {name : String} (hname : name ≠ defaultClient)
    (hdots : '.' ∉ name.toList) : merged (ofDocuments layers) name
      = .ok (match layered layers (place name) with
        | some overlay => merge ((layered layers (place defaultClient)).getD .emptyObject) overlay
        | none => (layered layers (place defaultClient)).getD .emptyObject) := by
  have hother : (name == defaultClient) = false := beq_false_of_ne hname
  rw [merged, raw_ofDocuments, raw_ofDocuments, steps_section (by decide), steps_section hdots, hother]
  cases layered layers (place name) <;> rfl

end Properties

/-- What two sections with these values at a place have there together. -/
structure Precedence (defaults named : List Json) (found : Option Json) : Prop where
  /-- The values of each section are laid together, and then those of the second over the first. -/
  sections : found = overlaid (laid defaults) (laid named)
  /-- All values are laid together one after the other, unless one of the second section has an object
      where one before it in this section has something else. -/
  ordered : named.Pairwise (fun u v => ¬Restores u v) → found = laid (defaults ++ named)
  /-- The last value of the second section is what is found, as a whole, if it is no object. -/
  own : ∀ v, named.getLast? = some v → v.isObject = false → found = some v
  /-- Without values in the second section it is the first that counts. -/
  fallback : named = [] → found = laid defaults
  /-- So is, then, the last value of the first. -/
  common : ∀ v, named = [] → defaults.getLast? = some v → v.isObject = false → found = some v
  /-- Without any values there is nothing. -/
  missing : named = [] → defaults = [] → found = none

theorem precedence {defaults named : List Json} (hdefaults : ∀ j ∈ defaults, j.Ordered)
    (hnamed : ∀ j ∈ named, j.Ordered) :
    Precedence defaults named (overlaid (laid defaults) (laid named)) where
  sections := rfl
  ordered hkeeps := (laid_append hdefaults hnamed hkeeps).symm
  own v hlast hv := by
    rw [laid_of_last hlast hv]
    cases laid defaults with
    | none => rfl
    | some base => exact congrArg some (merge_of_not_object hv)
  fallback hnone := by rw [hnone]; rfl
  common v hnone hlast hv := by
    rw [hnone]
    exact laid_of_last hlast hv
  missing hnone hmissing := by rw [hnone, hmissing]; rfl

/-- The settings of a client are read from a value that has, at every place no document has something
    else than an object on the way to, what the documents have there in the section of the client, over
    what they have there in the section of all clients. -/
theorem merged_precedence (layers : List (String × Json)) (h : ∀ l ∈ layers, l.2.Ordered) {name : String}
    (hname : name ≠ Properties.defaultClient) (hdots : '.' ∉ name.toList) {path : List String}
    (hpath : path ≠ []) (hdefault : Clear layers (Properties.place Properties.defaultClient) path)
    (hnamed : Clear layers (Properties.place name) path) :
    ∃ settings, Properties.merged (ofDocuments layers) name = .ok settings ∧
      Properties.load (ofDocuments layers) name = Properties.decoded name settings ∧
      Precedence (present layers (Properties.place Properties.defaultClient ++ path))
        (present layers (Properties.place name ++ path)) (atPath settings path) := by
  have hmerged := Properties.merged_ofDocuments layers hname hdots
  refine ⟨_, hmerged, by rw [Properties.load_eq, hmerged]; rfl, ?_⟩
  -- where there is no section of all clients, nothing is at the place, as in an empty object
  have hbase : atPath ((layered layers (Properties.place Properties.defaultClient)).getD .emptyObject) path
      = laid (present layers (Properties.place Properties.defaultClient ++ path)) := by
    rw [← layered_place h hdefault]
    cases layered layers (Properties.place Properties.defaultClient) with
    | some j => rfl
    | none =>
      cases path with
      | nil => exact absurd rfl hpath
      | cons k ks => rfl
  have hbaseOrdered : ((layered layers (Properties.place Properties.defaultClient)).getD .emptyObject).Ordered := by
    cases hfound : layered layers (Properties.place Properties.defaultClient) with
    | some j => exact layered_ordered h j hfound
    | none => exact ⟨List.Pairwise.nil, trivial⟩
  have hlaws : Precedence (present layers (Properties.place Properties.defaultClient ++ path))
      (present layers (Properties.place name ++ path)) _ :=
    precedence (present_ordered h) (present_ordered h)
  rw [← hbase, ← layered_place h hnamed] at hlaws
  cases hsection : layered layers (Properties.place name) with
  | none =>
    rw [hsection] at hlaws
    exact hlaws
  | some overlay =>
    have hover := atPath_merge hbaseOrdered (layered_ordered h overlay hsection) path
    rw [layered_hides h hnamed hsection, if_neg Bool.false_ne_true] at hover
    rw [hsection, Option.bind_some, ← hover] at hlaws
    exact hlaws

/-- A document with sections for clients. -/
def clients (sections : List (String × Json)) : Json := .object [("feign", .object [("client", .object sections)])]

/-- All clients retry three times, but the orders do not; another document gives them a backoff. -/
def revived : List (String × Json) :=
  [("base", clients [("default", .object [("retry", .object [("max_retries", .ofNat 3)])]),
      ("orders", .object [("retry", .null)])]),
    ("more", clients [("orders", .object [("retry", .object [("backoff_ms", .ofNat 7)])])])]

theorem atPath_clients (sections : List (String × Json)) (name : String) :
    atPath (clients sections) (Properties.place name) = Members.get? name sections := by
  have hplace : Properties.place name = ["feign", "client", name] := rfl
  rw [hplace, clients]
  simp only [atPath, Json.get?, Members.get?_cons_self]
  cases Members.get? name sections <;> rfl

theorem revived_ordered : ∀ l ∈ revived, l.2.Ordered := by decide

theorem revived_clear (name : String) : Clear revived (Properties.place name) ["retry"] := by
  intro l hl before key after v hpart hv
  -- all sections are objects
  cases before with
  | cons k ks => simp at hpart
  | nil =>
    rw [List.append_nil] at hv
    rcases List.mem_pair.mp hl with rfl | rfl
    all_goals
      simp only [atPath_clients, Members.get?] at hv
      repeat' split at hv
      all_goals cases hv
      all_goals rfl

/-- The values of the orders are laid together first, and then over that of all clients. -/
theorem precedence_of_revived : ∃ settings, Properties.merged (ofDocuments revived) "orders" = .ok settings ∧
    Properties.load (ofDocuments revived) "orders" = Properties.decoded "orders" settings ∧
    Precedence [.object [("max_retries", .ofNat 3)]] [.null, .object [("backoff_ms", .ofNat 7)]]
      (atPath settings ["retry"]) :=
  merged_precedence revived revived_ordered (by decide) (by decide) (by decide) (revived_clear _)
    (revived_clear _)

/-- All values laid one over the other are only the backoff, but the orders are retried three times. -/
theorem retry_of_revived : (∀ l ∈ revived, l.2.Ordered) ∧ "orders" ≠ Properties.defaultClient ∧
    '.' ∉ "orders".toList ∧ Clear revived (Properties.place Properties.defaultClient) ["retry"] ∧
    Clear revived (Properties.place "orders") ["retry"] ∧
    ∃ settings, Properties.merged (ofDocuments revived) "orders" = .ok settings ∧
      atPath settings ["retry"] ≠ laid (present revived (Properties.place Properties.defaultClient ++ ["retry"])
        ++ present revived (Properties.place "orders" ++ ["retry"])) ∧
      (Properties.load (ofDocuments revived) "orders").map (·.retry) = .ok (some ⟨3, 7, none⟩) := by
  refine ⟨revived_ordered, by decide, by decide, revived_clear _, revived_clear _, _, rfl, ?_, rfl⟩
  have hfound : some (Json.object [("backoff_ms", .ofNat 7), ("max_retries", .ofNat 3)])
      ≠ some (Json.object [("backoff_ms", .ofNat 7)]) := by simp
  exact hfound

end Courier.Config
