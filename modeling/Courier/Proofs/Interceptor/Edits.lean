import Courier.Interceptor.Headers

/-! Header fields behind edits.

    A name that is set has the last value that is set. Else it may have a default: the first one, if the
    request lacks the name or loses it. Else it is gone if it is removed, and as it was if not. To do the
    edits again changes nothing (`edited_by_name`). -/

namespace Courier

variable {W : Type}

/-! ### One edit -/

namespace Http.Headers

variable (name n : HeaderName) (value : HeaderValue) (hs : Headers)

theorem values_insert : values n (insert name value hs) = if name = n then [value] else values n hs := by
  induction hs with
  | nil => rfl
  | cons h hs ih =>
    rw [insert]
    split
    · next hm =>
      rw [values, values, hm]
      split <;> rfl
    · next hm =>
      rw [values, values, ih]
      split
      · next hn => rw [if_neg fun he => hm (hn.trans he.symm)]
      · rfl

theorem contains_insert : contains n (insert name value hs) = (decide (name = n) || contains n hs) := by
  induction hs with
  | nil => rfl
  | cons h hs ih =>
    simp only [contains] at ih ⊢
    rw [insert]
    split
    · next hm => simp [List.any_cons, hm]
    · simp [List.any_cons, ih, Bool.or_left_comm]

theorem values_remove : values n (remove name hs) = if name = n then [] else values n hs := by
  induction hs with
  | nil => exact (ite_self _).symm
  | cons h hs ih =>
    simp only [remove, List.filter_cons] at ih ⊢
    by_cases hm : h.1 = name
    · rw [if_neg (by simpa using hm), ih, values, hm]
      split <;> rfl
    · rw [if_pos (by simpa using hm), values, values, ih]
      split
      · next hn => rw [if_neg fun he => hm (hn.trans he.symm)]
      · rfl

theorem contains_remove : contains n (remove name hs) = (decide (name ≠ n) && contains n hs) := by
  rw [remove, contains, contains, List.any_filter]
  by_cases h : name = n
  · simp [h]
  · have hboth : ∀ m : HeaderName, (decide (m ≠ name) && decide (m = n)) = decide (m = n) := by
      intro m
      by_cases hm : m = n
      · simp [hm, Ne.symm h]
      · simp [hm]
    simp only [hboth, ne_eq, h, not_false_eq_true, decide_true, Bool.true_and]

end Http.Headers

namespace Interceptor.HeaderEdits

open Http Http.Headers

variable (n : HeaderName)

/-! ### Edits one after the other -/

theorem values_removed : ∀ (names : List HeaderName) (hs : Headers),
    values n (names.foldl (fun hs m => Headers.remove m hs) hs) = if n ∈ names then [] else values n hs
  | [], hs => by simp
  | m :: names, hs => by
    rw [List.foldl_cons, values_removed names, values_remove]
    by_cases h : m = n <;> simp [h, eq_comm (a := n)]

theorem contains_removed : ∀ (names : List HeaderName) (hs : Headers),
    contains n (names.foldl (fun hs m => Headers.remove m hs) hs) = (decide (n ∉ names) && contains n hs)
  | [], hs => by simp
  | m :: names, hs => by
    rw [List.foldl_cons, contains_removed names, contains_remove]
    by_cases h : m = n <;> simp [h, eq_comm (a := n)]

theorem lookup_cons_ite (f : HeaderName × HeaderValue) (fs : List (HeaderName × HeaderValue)) :
    (f :: fs).lookup n = if f.1 = n then some f.2 else fs.lookup n := by
  by_cases h : f.1 = n
  · rw [List.lookup_cons, if_pos h, h, beq_self_eq_true]
  · rw [List.lookup_cons, if_neg h, beq_false_of_ne (Ne.symm h)]

theorem lookup_reverse_cons (f : HeaderName × HeaderValue) (fs : List (HeaderName × HeaderValue)) :
    (f :: fs).reverse.lookup n = (fs.reverse.lookup n).or (if f.1 = n then some f.2 else none) := by
  rw [List.reverse_cons, List.lookup_append, lookup_cons_ite, List.lookup_nil]

theorem values_set : ∀ (fs : List (HeaderName × HeaderValue)) (hs : Headers),
    values n (fs.foldl (fun hs f => insert f.1 f.2 hs) hs)
      = ((fs.reverse.lookup n).map fun v => [v]).getD (values n hs)
  | [], hs => rfl
  | f :: fs, hs => by
    rw [List.foldl_cons, values_set fs, values_insert, lookup_reverse_cons]
    cases fs.reverse.lookup n with
    | some v => rfl
    | none => by_cases h : f.1 = n <;> simp [h]

theorem contains_set : ∀ (fs : List (HeaderName × HeaderValue)) (hs : Headers),
    contains n (fs.foldl (fun hs f => insert f.1 f.2 hs) hs) = ((fs.reverse.lookup n).isSome || contains n hs)
  | [], hs => rfl
  | f :: fs, hs => by
    rw [List.foldl_cons, contains_set fs, contains_insert, lookup_reverse_cons]
    cases fs.reverse.lookup n with
    | some v => rfl
    | none => by_cases h : f.1 = n <;> simp [h]

theorem contains_addDefault (f : HeaderName × HeaderValue) (hs : Headers) :
    contains n (addDefault hs f) = (decide (f.1 = n) || contains n hs) := by
  rw [addDefault]
  split
  · next h =>
    by_cases hn : f.1 = n
    · simp [← hn, h]
    · simp [hn]
  · exact contains_insert _ _ _ _

theorem values_addDefault (f : HeaderName × HeaderValue) (hs : Headers) :
    values n (addDefault hs f) = if f.1 = n ∧ contains n hs = false then [f.2] else values n hs := by
  rw [addDefault]
  by_cases hn : f.1 = n
  · subst hn
    cases h : contains f.1 hs <;> simp [values_insert]
  · split <;> simp [values_insert, hn]

theorem contains_defaults : ∀ (fs : List (HeaderName × HeaderValue)) (hs : Headers),
    contains n (fs.foldl addDefault hs) = ((fs.lookup n).isSome || contains n hs)
  | [], hs => rfl
  | f :: fs, hs => by
    rw [List.foldl_cons, contains_defaults fs, contains_addDefault, lookup_cons_ite]
    by_cases h : f.1 = n <;> simp [h]

theorem values_defaults : ∀ (fs : List (HeaderName × HeaderValue)) (hs : Headers),
    values n (fs.foldl addDefault hs)
      = if contains n hs then values n hs else ((fs.lookup n).map fun v => [v]).getD (values n hs)
  | [], hs => (ite_self _).symm
  | f :: fs, hs => by
    rw [List.foldl_cons, values_defaults fs, contains_addDefault, values_addDefault, lookup_cons_ite]
    by_cases h : f.1 = n <;> cases hc : contains n hs <;> simp [h]

/-! ### All edits -/

variable (e : HeaderEdits) (hs : Headers)

/-- The values of a name when all edits are done. -/
def outcome : List HeaderValue := match e.set.reverse.lookup n, e.defaults.lookup n with
  | some v, _ => [v]
  | none, some v => if contains n hs = false ∨ n ∈ e.remove then [v] else values n hs
  | none, none => if n ∈ e.remove then [] else values n hs

theorem values_run : values n (e.run hs) = e.outcome n hs := by
  simp only [run, values_defaults, values_set, contains_set, values_removed, contains_removed, outcome]
  cases e.set.reverse.lookup n <;> cases e.defaults.lookup n <;> by_cases h : n ∈ e.remove <;>
    cases contains n hs <;> simp [h]

theorem contains_run : contains n (e.run hs) = ((e.defaults.lookup n).isSome ||
    ((e.set.reverse.lookup n).isSome || (decide (n ∉ e.remove) && contains n hs))) := by
  simp only [run, contains_defaults, contains_set, contains_removed]

/-- What was done once needs not be done again. -/
theorem outcome_run : e.outcome n (e.run hs) = e.outcome n hs := by
  rw [outcome, values_run, contains_run, outcome]
  -- A default that was given stays, or is given again when the name has been removed again.
  cases e.set.reverse.lookup n <;> cases e.defaults.lookup n <;> by_cases h : n ∈ e.remove <;>
    cases contains n hs <;> simp [h]

theorem contains_run_run : contains n (e.run (e.run hs)) = contains n (e.run hs) := by
  simp only [contains_run]
  cases e.set.reverse.lookup n <;> cases e.defaults.lookup n <;> by_cases h : n ∈ e.remove <;> simp [h]

end Interceptor.HeaderEdits

/-! ### Requests -/

/-- The same request, its header fields compared name by name. -/
structure Request.Same (r r' : Request W) : Prop where
  method : r.method = r'.method
  uri : r.uri = r'.uri
  body : r.body = r'.body
  values : ∀ n, Http.Headers.values n r.headers = Http.Headers.values n r'.headers
  contains : ∀ n, Http.Headers.contains n r.headers = Http.Headers.contains n r'.headers

namespace Interceptor

open Http Http.Headers

/-- An interceptor of a configuration that is accepted does its edits. -/
theorem headers_ok {c : HeaderConfig} {i : Interceptor W} (h : headers c = .ok i) :
    ∃ e, HeaderEdits.ofConfig c = .ok e ∧ i = ofHeaders "header" e.run := by
  rw [headers] at h
  cases he : HeaderEdits.ofConfig c with
  | error f => rw [he] at h; cases h
  | ok e =>
    rw [he] at h
    cases h
    exact ⟨e, rfl, rfl⟩

/-- Whatever the configuration, if it is accepted, and whatever the request: the values of each header name
    are the last one that is set for it; if none is, then the first default, if the request has no value
    for the name or it is to be removed; if there is none, then no value if the name is to be removed, and
    else the values of the request, in their order and as sensitive as they were. Method, URL and body stay
    as they are, and so do the surroundings. The request that results is not changed when the interceptor
    is applied to it again. -/
theorem edited_by_name {c : HeaderConfig} {i : Interceptor W} (h : headers c = .ok i) :
    ∃ e, HeaderEdits.ofConfig c = .ok e ∧ ∀ (r : Request W) (w : W), ∃ r', i.apply r w = (w, r') ∧
      r'.method = r.method ∧ r'.uri = r.uri ∧ r'.body = r.body ∧
      (∀ n, values n r'.headers = e.outcome n r.headers) ∧
      ∃ r'', i.apply r' w = (w, r'') ∧ r''.Same r' := by
  obtain ⟨e, he, rfl⟩ := headers_ok h
  refine ⟨e, he, fun r w => ⟨_, rfl, rfl, rfl, rfl, fun n => e.values_run n _, _, rfl, rfl, rfl, rfl, fun n => ?_,
    fun n => e.contains_run_run n r.headers⟩⟩
  simp only [e.values_run, e.outcome_run]

/-- A name in several lists, or several times in one. -/
def overlapping : HeaderConfig :=
  ⟨[("X-Set", "1"), ("x-set", "2")], [("x-set", "3"), ("x-lost", "4"), ("X-Lost", "5"), ("x-kept", "6")],
    ["x-set", "x-lost", "x-gone"]⟩

/-- Each name goes its own way. -/
theorem edited_of_overlapping :
    let hs : Headers := ["x-set", "x-lost", "x-kept", "x-gone", "x-other"].map fun n =>
      (⟨n⟩, [⟨[48], true⟩, ⟨[49], false⟩])
    ∃ i : Interceptor Unit, headers overlapping = .ok i ∧ ∀ r : Request Unit, r.headers = hs →
      hs.map (fun h => (h.1.text, (values h.1 (i.apply r ()).2.headers).map fun v => (v.bytes, v.sensitive)))
        = [("x-set", [([50], false)]), ("x-lost", [([52], false)]), ("x-kept", [([48], true), ([49], false)]),
          ("x-gone", []), ("x-other", [([48], true), ([49], false)])] := by
  intro hs
  obtain ⟨e, he⟩ : ∃ e, HeaderEdits.ofConfig overlapping = .ok e := ⟨_, rfl⟩
  have hi : headers overlapping = .ok (ofHeaders (W := Unit) "header" e.run) := by rw [headers, he]; rfl
  refine ⟨_, hi, fun r hr => ?_⟩
  obtain ⟨e', he', hall⟩ := edited_by_name hi
  obtain ⟨r', hr', -, -, -, houtcome, -⟩ := hall r ()
  rw [hr']
  simp only [houtcome, hr]
  cases he'
  decide +kernel

end Interceptor
end Courier
