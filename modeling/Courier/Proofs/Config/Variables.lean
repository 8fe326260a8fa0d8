import Courier.Proofs.Config.Place
import Courier.Proofs.Json.Depth
import Mathlib.Data.List.Nodup

/-! Variables and the settings they make.

    A variable that names a place is found there with its value, unless a later one is put in the same
    place, below it or above it (`variable_kept`). So variables may be taken in any order as long as those
    that clash keep theirs: the settings are the same in all orders if and only if none clash
    (`clashes_decide`). -/

namespace Courier.Config

open Json (Ordered)

/-! ### Names -/

/-- The place that the variable of a name is put at; empty if it is put nowhere. -/
def placeOf (start name : String) : List String := (variablePath start name).getD []

theorem behind_eq_some {start cs rest : List Char} : Text.behind start cs = some rest ↔ cs = start ++ rest := by
  induction start generalizing cs with
  | nil => exact ⟨Option.some.inj, congrArg some⟩
  | cons s start ih =>
    cases cs with
    | nil => exact iff_of_false nofun nofun
    | cons c cs =>
      rw [Text.behind, List.cons_append, List.cons.injEq, ← ih, eq_comm (a := c)]
      by_cases h : s = c <;> simp [h]

/-- A variable has a path if its name goes on behind the prefix and its mark. -/
theorem variablePath_eq_some {start name : String} {path : List String} : variablePath start name = some path ↔
    ∃ rest, name = start ++ "__" ++ rest ∧ variableSteps rest.toList = path := by
  rw [variablePath, Option.map_eq_some_iff]
  constructor
  · rintro ⟨rest, hname, hpath⟩
    refine ⟨String.ofList rest, String.toList_injective ?_, by rwa [String.toList_ofList]⟩
    simpa using behind_eq_some.mp hname
  · rintro ⟨rest, rfl, hpath⟩
    exact ⟨rest.toList, behind_eq_some.mpr (by simp), hpath⟩

theorem placeOf_name (start rest : String) : placeOf start (start ++ "__" ++ rest) = variableSteps rest.toList := by
  rw [placeOf, variablePath_eq_some.mpr ⟨rest, rfl, rfl⟩]
  rfl

/-- A variable that is put somewhere has a name with that place in it. -/
theorem name_of_placeOf {start name : String} (h : placeOf start name ≠ []) :
    ∃ rest, name = start ++ "__" ++ rest ∧ variableSteps rest.toList = placeOf start name := by
  cases hpath : variablePath start name with
  | none => exact absurd (by rw [placeOf, hpath]; rfl) h
  | some path => rw [placeOf, hpath]; exact variablePath_eq_some.mp hpath

/-! ### One variable -/

section Variable

variable {start : String} {e f : String × String} {root : Json}

theorem addVariable_eq (start : String) (root : Json) (e : String × String) : addVariable start root e
    = if placeOf start e.1 = [] then root else place (variableValue e.2) (placeOf start e.1) root := by
  rw [addVariable, placeOf]
  rcases variablePath start e.1 with _ | _ | ⟨k, ks⟩ <;> simp

theorem addVariable_nowhere (h : placeOf start e.1 = []) (root : Json) : addVariable start root e = root := by
  rw [addVariable_eq, if_pos h]

theorem addVariable_place (h : placeOf start e.1 ≠ []) (root : Json) :
    addVariable start root e = place (variableValue e.2) (placeOf start e.1) root := by
  rw [addVariable_eq, if_neg h]

/-- A text that is JSON stands for its value. -/
theorem variableValue_of_json {text : String} {j : Json} (h : Json.parse (Text.bytes text) = .ok j) :
    variableValue text = j := by
  rw [variableValue, h]

/-- Any other text stands for itself. -/
theorem variableValue_of_text {text : String} (h : ∀ j, Json.parse (Text.bytes text) ≠ .ok j) :
    variableValue text = .string text := by
  rw [variableValue]
  cases hp : Json.parse (Text.bytes text) with
  | ok j => exact absurd hp (h j)
  | error f => rfl

theorem variableValue_ordered (text : String) : (variableValue text).Ordered := by
  rw [variableValue]
  cases h : Json.parse (Text.bytes text) with
  | error f => trivial
  | ok j => exact Json.parse_ordered h

theorem addVariable_ordered (h : root.Ordered) (e : String × String) : (addVariable start root e).Ordered := by
  rw [addVariable_eq]
  split
  · exact h
  · exact place_ordered (variableValue_ordered e.2) _ h

theorem foldl_addVariable_ordered : ∀ (es : List (String × String)) {root : Json}, root.Ordered →
    (es.foldl (addVariable start) root).Ordered
  | [], _, h => h
  | e :: es, _, h => foldl_addVariable_ordered es (addVariable_ordered h e)

theorem environment_ordered (start : String) (es : List (String × String)) : (environment start es).Ordered :=
  foldl_addVariable_ordered es ⟨.nil, trivial⟩

/-- The settings of the variables before one, with that one and those after it put in. -/
theorem environment_append (start : String) (before after : List (String × String)) (e : String × String) :
    environment start (before ++ e :: after)
      = after.foldl (addVariable start) (addVariable start (environment start before) e) := by
  rw [environment, List.foldl_append, List.foldl_cons, environment]

end Variable

/-! ### What is kept -/

/-- The key of a path without dots has the steps of the path. -/
theorem steps_intercalate {path : List String} (hne : path ≠ []) (hdots : ∀ s ∈ path, '.' ∉ s.toList) :
    steps (".".intercalate path) = path := by
  have hsplit : (['.'].intercalate (path.map String.toList)).splitOn '.' = path.map String.toList :=
    List.splitOn_intercalate '.' (List.forall_mem_map.mpr hdots) (by simpa using hne)
  have hkey : (".".intercalate path).toList = ['.'].intercalate (path.map String.toList) :=
    String.toList_intercalate
  rw [steps, hkey, hsplit, List.map_map]
  exact (List.map_congr_left fun s _ => String.ofList_toList).trans (List.map_id path)

/-- What stands at the end of a path stays while variables are put elsewhere. -/
theorem atPath_foldl_addVariable {start : String} {path : List String} : ∀ (es : List (String × String))
    {root : Json}, (∀ e ∈ es, placeOf start e.1 ≠ [] → Apart path (placeOf start e.1)) → root.Ordered →
    atPath (es.foldl (addVariable start) root) path = atPath root path
  | [], _, _, _ => rfl
  | e :: es, root, h, hroot => by
    obtain ⟨he, hes⟩ := List.forall_mem_cons.mp h
    rw [List.foldl_cons, atPath_foldl_addVariable es hes (addVariable_ordered hroot e), addVariable_eq]
    split
    · rfl
    · next hsome => exact atPath_place_of_apart (he hsome) hroot

/-- The key of a path without dots has what stands at the end of the path. -/
theorem lookup_intercalate {path : List String} (hne : path ≠ []) (hdots : ∀ s ∈ path, '.' ∉ s.toList)
    (root : Json) : lookup root (".".intercalate path) = atPath root path := by
  rw [lookup, steps_intercalate hne hdots]

theorem has_ofEnvironment (start : String) (es : List (String × String)) (key : String) :
    (Provider.ofEnvironment start es).has key = (lookup (environment start es) key).isSome := rfl

theorem get_ofEnvironment (start : String) (es : List (String × String)) (key : String) :
    (Provider.ofEnvironment start es).get key = .ok (lookup (environment start es) key) := rfl

section Kept

variable {start : String} {e : String × String} {before after : List (String × String)}

/-- A variable that is put nowhere may be left out. -/
theorem environment_nowhere (h : placeOf start e.1 = []) :
    environment start (before ++ e :: after) = environment start (before ++ after) := by
  rw [environment_append, addVariable_nowhere h, environment, environment, List.foldl_append]

/-- A variable has its value in its place, unless a later one is put there, below or above. -/
theorem atPath_environment (he : placeOf start e.1 ≠ [])
    (hlater : ∀ later ∈ after, placeOf start later.1 ≠ [] → Apart (placeOf start e.1) (placeOf start later.1)) :
    atPath (environment start (before ++ e :: after)) (placeOf start e.1) = some (variableValue e.2) := by
  have hbefore : (environment start before).Ordered := environment_ordered start before
  rw [environment_append, atPath_foldl_addVariable after hlater (addVariable_ordered hbefore e),
    addVariable_place he]
  exact atPath_place _ hbefore

end Kept

theorem apart_of_places {start : String} {path : List String} {es : List (String × String)}
    (h : ∀ e ∈ es, placeOf start e.1 ≠ [] → Apart path (placeOf start e.1)) : ∀ e ∈ es, ∀ rest,
    e.1 = start ++ "__" ++ rest → variableSteps rest.toList ≠ [] → Apart path (variableSteps rest.toList) := by
  intro e hmem rest hname hsome
  have hplace : placeOf start e.1 = variableSteps rest.toList := hname ▸ placeOf_name start rest
  exact hplace ▸ h e hmem (hplace ▸ hsome)

/-- A variable whose name lacks the prefix and its mark, or has no step behind them, changes nothing.
    Else, if its steps have no dots in them and no later variable has the same steps, goes on from them or
    leads to them, then the key of the steps has its value: what its text is as JSON, or the text itself.
    Every key on the way there has an object. -/
theorem variable_kept (start name text : String) (before after : List (String × String)) :
    ((∀ rest, name = start ++ "__" ++ rest → variableSteps rest.toList = []) →
      environment start (before ++ (name, text) :: after) = environment start (before ++ after)) ∧
    ∀ rest, name = start ++ "__" ++ rest → variableSteps rest.toList ≠ [] →
      (∀ s ∈ variableSteps rest.toList, '.' ∉ s.toList) →
      (∀ later ∈ after, ∀ rest', later.1 = start ++ "__" ++ rest' → variableSteps rest'.toList ≠ [] →
        Apart (variableSteps rest.toList) (variableSteps rest'.toList)) →
      let provider := Provider.ofEnvironment start (before ++ (name, text) :: after)
      let key := ".".intercalate (variableSteps rest.toList)
      provider.has key = true ∧
        (∀ j, Json.parse (Text.bytes text) = .ok j → provider.get key = .ok (some j)) ∧
        ((∀ j, Json.parse (Text.bytes text) ≠ .ok j) → provider.get key = .ok (some (.string text))) ∧
        ∀ front, front ≠ [] → front <+: variableSteps rest.toList → front ≠ variableSteps rest.toList →
          ∃ ms, provider.get (".".intercalate front) = .ok (some (.object ms)) := by
  constructor
  · intro h
    have hnowhere : placeOf start (name, text).1 = [] := by
      by_contra hsome
      obtain ⟨rest, hname, hsteps⟩ := name_of_placeOf hsome
      exact hsome (hsteps.symm.trans (h rest hname))
    exact environment_nowhere hnowhere
  · intro rest hname hne hdots hlater provider key
    have hplace : placeOf start (name, text).1 = variableSteps rest.toList := hname ▸ placeOf_name start rest
    rw [← hplace] at hne hdots hlater ⊢
    have hapart : ∀ later ∈ after, placeOf start later.1 ≠ [] →
        Apart (placeOf start (name, text).1) (placeOf start later.1) := by
      intro later hmem hsome
      obtain ⟨rest', hname', hsteps⟩ := name_of_placeOf hsome
      exact hsteps ▸ hlater later hmem rest' hname' (hsteps ▸ hsome)
    have hput : atPath (environment start (before ++ (name, text) :: after)) (placeOf start (name, text).1)
        = some (variableValue text) := atPath_environment hne hapart
    have hkey : key = ".".intercalate (placeOf start (name, text).1) := congrArg (".".intercalate ·) hplace.symm
    have hget : provider.get key = .ok (some (variableValue text)) := by
      rw [hkey, get_ofEnvironment, lookup_intercalate hne hdots, hput]
    refine ⟨?_, fun j hj => ?_, fun htext => ?_, fun front hfront hway hproper => ?_⟩
    · rw [hkey, has_ofEnvironment, lookup_intercalate hne hdots, hput]
      rfl
    · rw [hget, variableValue_of_json hj]
    · rw [hget, variableValue_of_text htext]
    · obtain ⟨ms, hms⟩ := object_of_atPath hput hway hproper
      refine ⟨ms, ?_⟩
      rw [get_ofEnvironment, lookup_intercalate hfront fun s hs => hdots s (hway.subset hs), hms]

/-- Marks that repeat, letters of both cases, and variables of other places behind; a text that is JSON
    and one that is not. -/
theorem kept_of_repeatedMarks :
    let after := [("FEIGN__CLIENT", "3"), ("APP____", "4"), ("APP__FEIGN__CLIENT__X_", "5")]
    let provider := Provider.ofEnvironment "APP" (("APP__FEIGN", "1") ::
      ("APP____Feign____CLIENT__MAX_SIZE", "500") :: ("APP__FEIGN__TARGET", "http://orders/") :: after)
    provider.get "feign.client.max_size" = .ok (some (.ofNat 500)) ∧
      provider.get "feign.target" = .ok (some (.string "http://orders/")) ∧
      ∃ ms, provider.get "feign.client" = .ok (some (.object ms)) := by
  intro after provider
  have hsize : variableSteps "__Feign____CLIENT__MAX_SIZE".toList = ["feign", "client", "max_size"] := by
    decide +kernel
  have htarget : variableSteps "FEIGN__TARGET".toList = ["feign", "target"] := by decide +kernel
  have hlater : ∀ later ∈ ("APP__FEIGN__TARGET", "http://orders/") :: after, placeOf "APP" later.1 ≠ [] →
      Apart ["feign", "client", "max_size"] (placeOf "APP" later.1) := by
    simp only [Apart]
    decide +kernel
  have hlater' : ∀ later ∈ after, placeOf "APP" later.1 ≠ [] →
      Apart ["feign", "target"] (placeOf "APP" later.1) := by
    simp only [Apart]
    decide +kernel
  have htext : ∀ j, Json.parse (Text.bytes "http://orders/") ≠ .ok j := by
    have hfails : (Json.parse (Text.bytes "http://orders/")).isOk = false := by decide +kernel
    intro j hj
    rw [hj] at hfails
    cases hfails
  obtain ⟨-, hkept⟩ := variable_kept "APP" "APP____Feign____CLIENT__MAX_SIZE" "500" [("APP__FEIGN", "1")]
    (("APP__FEIGN__TARGET", "http://orders/") :: after)
  obtain ⟨-, hget, -, hway⟩ := hkept "__Feign____CLIENT__MAX_SIZE" (by decide +kernel)
    (by rw [hsize]; decide) (by rw [hsize]; decide) (apart_of_places (hsize ▸ hlater))
  obtain ⟨-, hkept'⟩ := variable_kept "APP" "APP__FEIGN__TARGET" "http://orders/"
    [("APP__FEIGN", "1"), ("APP____Feign____CLIENT__MAX_SIZE", "500")] after
  obtain ⟨-, -, hget', -⟩ := hkept' "FEIGN__TARGET" (by decide +kernel) (by rw [htarget]; decide)
    (by rw [htarget]; decide) (apart_of_places (htarget ▸ hlater'))
  rw [hsize] at hget hway
  rw [htarget] at hget'
  exact ⟨hget (.ofNat 500) rfl, hget' htext, hway ["feign", "client"] (by decide) (by decide) (by decide)⟩

/-! ### Orders -/

section Orders

variable {start : String} {e f : String × String} {root : Json} {es es' : List (String × String)}

/-- The first variable, put behind the second, undoes it: the second's place is the first's or lies below
    it, and the value of the first has something else there. -/
def Undoes (start : String) (e f : String × String) : Prop := placeOf start e.1 ≠ [] ∧
  ∃ rest, placeOf start f.1 = placeOf start e.1 ++ rest ∧
    atPath (variableValue e.2) rest ≠ some (variableValue f.2)

/-- One of the variables, put behind the other, undoes it. -/
def Clash (start : String) (e f : String × String) : Prop := Undoes start e f ∨ Undoes start f e

theorem not_clash_self (start : String) (e : String × String) : ¬Clash start e e := by
  have hself : ¬Undoes start e e := by
    rintro ⟨-, rest, hrest, hvalue⟩
    obtain rfl : rest = [] := List.self_eq_append_right.mp hrest
    exact hvalue rfl
  exact fun h => h.elim hself hself

/-- Variables on paths that part do not clash. -/
theorem not_clash_of_apart (h : Apart (placeOf start e.1) (placeOf start f.1)) : ¬Clash start e f := by
  rintro (⟨-, rest, hrest, -⟩ | ⟨-, rest, hrest, -⟩)
  · exact h.1 ⟨rest, hrest.symm⟩
  · exact h.2 ⟨rest, hrest.symm⟩

/-- A variable whose place lies below that of another, which has the same there already. -/
theorem addVariable_below {rest : List String} (he : placeOf start e.1 ≠ [])
    (hrest : placeOf start f.1 = placeOf start e.1 ++ rest)
    (hvalue : atPath (variableValue e.2) rest = some (variableValue f.2)) (root : Json) :
    addVariable start (addVariable start root f) e = addVariable start (addVariable start root e) f := by
  have hf : placeOf start f.1 ≠ [] := fun hnil => he (List.append_eq_nil_iff.mp (hrest.symm.trans hnil)).1
  rw [addVariable_place he, addVariable_place hf, addVariable_place he, addVariable_place hf, hrest, place_over,
    place_within, place_same (variableValue_ordered e.2) hvalue]

/-- Variables that do not clash may be put in in either order. -/
theorem addVariable_comm (h : ¬Clash start e f) (hroot : root.Ordered) :
    addVariable start (addVariable start root e) f = addVariable start (addVariable start root f) e := by
  by_cases he : placeOf start e.1 = []
  · rw [addVariable_nowhere he, addVariable_nowhere he]
  by_cases hf : placeOf start f.1 = []
  · rw [addVariable_nowhere hf, addVariable_nowhere hf]
  by_cases hbelow : placeOf start e.1 <+: placeOf start f.1
  · obtain ⟨rest, hrest⟩ := hbelow
    have hvalue : atPath (variableValue e.2) rest = some (variableValue f.2) := by
      by_contra hother
      exact h (.inl ⟨he, rest, hrest.symm, hother⟩)
    exact (addVariable_below he hrest.symm hvalue root).symm
  by_cases habove : placeOf start f.1 <+: placeOf start e.1
  · obtain ⟨rest, hrest⟩ := habove
    have hvalue : atPath (variableValue f.2) rest = some (variableValue e.2) := by
      by_contra hother
      exact h (.inr ⟨hf, rest, hrest.symm, hother⟩)
    exact addVariable_below hf hrest.symm hvalue root
  · rw [addVariable_place he, addVariable_place hf, addVariable_place hf, addVariable_place he]
    exact place_comm _ _ ⟨habove, hbelow⟩ hroot

/-- Which of two variables that clash comes last is seen in the settings. -/
theorem addVariable_ne (h : Clash start e f) (hroot : root.Ordered) :
    addVariable start (addVariable start root e) f ≠ addVariable start (addVariable start root f) e := by
  have hundoes : ∀ {e f : String × String}, Undoes start e f →
      addVariable start (addVariable start root e) f ≠ addVariable start (addVariable start root f) e := by
    rintro e f ⟨he, rest, hrest, hvalue⟩ hsame
    have hf : placeOf start f.1 ≠ [] := fun hnil => he (List.append_eq_nil_iff.mp (hrest.symm.trans hnil)).1
    have hlast := congrArg (atPath · (placeOf start f.1)) hsame
    simp only [addVariable_place he, addVariable_place hf] at hlast
    rw [atPath_place _ (place_ordered (variableValue_ordered _) _ hroot), hrest, atPath_append,
      atPath_place _ (place_ordered (variableValue_ordered _) _ hroot)] at hlast
    exact hvalue hlast.symm
  exact h.elim hundoes fun h hsame => hundoes h hsame.symm

/-- A variable may be put in before others that it does not clash with. -/
theorem foldl_addVariable_comm : ∀ (es : List (String × String)) {root : Json}, (∀ f ∈ es, ¬Clash start e f) →
    root.Ordered → addVariable start (es.foldl (addVariable start) root) e
      = es.foldl (addVariable start) (addVariable start root e)
  | [], _, _, _ => rfl
  | f :: es, root, h, hroot => by
    obtain ⟨hf, hes⟩ := List.forall_mem_cons.mp h
    rw [List.foldl_cons, List.foldl_cons, foldl_addVariable_comm es hes (addVariable_ordered hroot f),
      addVariable_comm hf hroot]

/-- The same variables, those that clash in the same order. -/
structure Reordered (start : String) (es es' : List (String × String)) : Prop where
  perm : es.Perm es'
  clashing : ∀ e f, Clash start e f → [e, f].Sublist es → [e, f].Sublist es'

/-- What stands before one of several different things does not stand behind it. -/
theorem not_sublist_of_before {α : Type} {a b : α} {front back : List α} (hdistinct : (front ++ a :: back).Nodup)
    (hb : b ∈ front) : ¬[a, b].Sublist (front ++ a :: back) := by
  obtain ⟨-, -, hapart⟩ := List.nodup_append.mp hdistinct
  intro hsub
  obtain ⟨xs, ys, hxy, hxs, hys⟩ := List.sublist_append_iff.mp hsub
  cases xs with
  | nil =>
    rw [List.nil_append] at hxy
    exact hapart b hb b (hys.subset (hxy ▸ .tail _ (.head _))) rfl
  | cons x xs =>
    obtain ⟨rfl, -⟩ := List.cons.inj hxy
    exact hapart a (hxs.subset (.head _)) a (.head _) rfl

theorem Reordered.foldl_eq {es es' : List (String × String)} {root : Json} (h : Reordered start es es')
    (hdistinct : es.Nodup) (hroot : root.Ordered) :
    es'.foldl (addVariable start) root = es.foldl (addVariable start) root := by
  induction es generalizing es' root with
  | nil => rw [h.perm.nil_eq]
  | cons e es ih =>
    -- The first variable stands somewhere in the other order, behind others that it cannot clash with.
    obtain ⟨front, back, rfl⟩ := List.append_of_mem (h.perm.mem_iff.mp (.head es))
    have hdistinct' : (front ++ e :: back).Nodup := h.perm.nodup_iff.mp hdistinct
    obtain ⟨hnew, hes⟩ := List.nodup_cons.mp hdistinct
    have hrest : es.Perm (front ++ back) := (h.perm.trans List.perm_middle).cons_inv
    have hfront : ∀ f ∈ front, ¬Clash start e f := by
      intro f hf hclash
      have hbehind : f ∈ es := hrest.mem_iff.mpr (List.mem_append_left _ hf)
      exact not_sublist_of_before hdistinct' hf
        (h.clashing e f hclash ((List.singleton_sublist.mpr hbehind).cons_cons e))
    have hreordered : Reordered start es (front ++ back) := by
      refine ⟨hrest, fun a b hclash hsub => ?_⟩
      have hsub' := (h.clashing a b hclash (hsub.cons e)).erase e
      have ha : a ≠ e := fun heq => hnew (heq ▸ hsub.subset (.head _))
      have hb : b ≠ e := fun heq => hnew (heq ▸ hsub.subset (.tail _ (.head _)))
      have hgone : e ∉ front := fun hmem => hnew (hrest.mem_iff.mpr (List.mem_append_left _ hmem))
      rwa [List.erase_of_not_mem (by simp [ha.symm, hb.symm]), List.erase_append_right _ hgone,
        List.erase_cons_head] at hsub'
    rw [List.foldl_append, List.foldl_cons, foldl_addVariable_comm front hfront hroot, ← List.foldl_append,
      List.foldl_cons]
    exact ih hreordered hes (addVariable_ordered hroot e)

/-- Where all orders make the same settings, no variables clash. -/
theorem not_clash_of_same (hsame : ∀ es', es.Perm es' → environment start es' = environment start es)
    (he : e ∈ es) (hf : f ∈ es) : ¬Clash start e f := by
  intro hclash
  have hne : f ≠ e := fun heq => not_clash_self start e (heq ▸ hclash)
  -- Two orders of the variables that have these two at their end.
  have hfirst : es.Perm ((es.erase e).erase f ++ [e, f]) := by
    refine (List.perm_cons_erase he).trans ?_
    refine ((List.perm_cons_erase ((List.mem_erase_of_ne hne).mpr hf)).cons e).trans ?_
    exact (List.perm_append_comm : ([e, f] ++ (es.erase e).erase f).Perm _)
  have hsecond : es.Perm ((es.erase e).erase f ++ [f, e]) :=
    hfirst.trans ((List.Perm.swap f e []).append_left _)
  have hends := (hsame _ hfirst).trans (hsame _ hsecond).symm
  rw [environment_append, environment_append] at hends
  exact addVariable_ne hclash (environment_ordered start _) hends

/-- Variables of different names make the same settings, and the same answers to all keys, in two orders that
    differ only in where variables stand that do not clash. They make the same settings in all orders if and
    only if none of them clash: whenever the place of one is that of another or lies below it, the other
    has the same value there. -/
theorem clashes_decide (start : String) (hnames : (es.map Prod.fst).Nodup) :
    (∀ es', Reordered start es es' → environment start es' = environment start es ∧
      Provider.ofEnvironment start es' = Provider.ofEnvironment start es) ∧
    ((∀ es', es.Perm es' → environment start es' = environment start es) ↔
      ∀ e ∈ es, ∀ f ∈ es, ¬Clash start e f) := by
  have hdistinct : es.Nodup := List.Nodup.of_map Prod.fst hnames
  have hkept : ∀ es', Reordered start es es' → environment start es' = environment start es :=
    fun es' h => h.foldl_eq hdistinct ⟨.nil, trivial⟩
  refine ⟨fun es' h => ⟨hkept es' h, ?_⟩, fun hsame e he f hf => not_clash_of_same hsame he hf,
    fun hnone es' hp => ?_⟩
  · rw [Provider.ofEnvironment, hkept es' h, Provider.ofEnvironment]
  · refine hkept es' ⟨hp, fun e f hclash hsub => ?_⟩
    exact absurd hclash (hnone e (hsub.subset (.head _)) f (hsub.subset (.tail _ (.head _))))

end Orders

/-- A variable, one below its place, and one of another place. -/
def nested : List (String × String) := [("APP__A", "1"), ("APP__a__B", "2"), ("APP__C", "3")]

/-- The variable of another place may stand anywhere. -/
theorem settings_of_nested : (nested.map Prod.fst).Nodup ∧
    environment "APP" [("APP__C", "3"), ("APP__A", "1"), ("APP__a__B", "2")] = environment "APP" nested := by
  have hnames : (nested.map Prod.fst).Nodup := by decide
  refine ⟨hnames, ((clashes_decide "APP" hnames).1 _ ⟨by decide, fun e f hclash hsub => ?_⟩).1⟩
  have hpairs : ∀ e ∈ nested, ∀ f ∈ nested, [e, f].Sublist nested →
      [e, f].Sublist [("APP__C", "3"), ("APP__A", "1"), ("APP__a__B", "2")] ∨
        Apart (placeOf "APP" e.1) (placeOf "APP" f.1) := by
    simp only [Apart]
    decide +kernel
  refine (hpairs e (hsub.subset (.head _)) f (hsub.subset (.tail _ (.head _))) hsub).resolve_right fun hapart => ?_
  exact not_clash_of_apart hapart hclash

/-- Of two variables whose names differ in case only, or one of which is put below the other, the last
    one decides. -/
theorem order_seen_of_nested :
    let cased := [("APP__A", "1"), ("APP__a", "2")]
    (nested.map Prod.fst).Nodup ∧ nested.Perm nested.reverse ∧
      (Provider.ofEnvironment "APP" nested).get "a.b" = .ok (some (.ofNat 2)) ∧
      (Provider.ofEnvironment "APP" nested.reverse).get "a.b" = .ok none ∧
    (cased.map Prod.fst).Nodup ∧ cased.Perm cased.reverse ∧
      (Provider.ofEnvironment "APP" cased).get "a" = .ok (some (.ofNat 2)) ∧
      (Provider.ofEnvironment "APP" cased.reverse).get "a" = .ok (some (.ofNat 1)) := by
  intro cased
  exact ⟨by decide, (List.reverse_perm _).symm, rfl, rfl, by decide, (List.reverse_perm _).symm, rfl, rfl⟩

end Courier.Config
