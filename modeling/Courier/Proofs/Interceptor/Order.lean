import Courier.Proofs.Interceptor.Edits
import Courier.Proofs.Text.Utf8

/-! Header fields in whatever order they are configured.

    The dictionaries of a configuration have no order, and names that differ in case are one name. What a
    request gets is the same in all orders if and only if keys that are one name have one value; for a
    name that is set, defaults do not count (`order_unseen_iff`). -/

namespace Courier

/-! ### Look-up in other orders -/

namespace Http

variable {n : HeaderName} {fs fs' : List (HeaderName × HeaderValue)}

theorem mem_of_lookup {v : HeaderValue} (h : fs.lookup n = some v) : (n, v) ∈ fs := by
  obtain ⟨front, back, rfl, -⟩ := List.lookup_eq_some_iff.mp h
  exact List.mem_append_right _ (.head _)

theorem isSome_lookup_perm (hp : fs.Perm fs') : (fs.lookup n).isSome = (fs'.lookup n).isSome := by
  rw [Bool.eq_iff_iff, List.lookup_isSome_iff, List.lookup_isSome_iff]
  simp only [hp.mem_iff]

/-- A name with one value has it in all orders. -/
theorem lookup_perm (hp : fs.Perm fs') (hone : ∀ v v', (n, v) ∈ fs → (n, v') ∈ fs → v = v') :
    fs.lookup n = fs'.lookup n := by
  have hsome := isSome_lookup_perm (n := n) hp
  cases h : fs.lookup n with
  | none =>
    rw [h] at hsome
    exact (Option.isNone_iff_eq_none.mp (Option.isSome_eq_false_iff.mp hsome.symm)).symm
  | some v =>
    rw [h] at hsome
    obtain ⟨v', h'⟩ := Option.isSome_iff_exists.mp hsome.symm
    rw [h', hone v v' (mem_of_lookup h) (hp.mem_iff.mpr (mem_of_lookup h'))]

end Http

namespace Interceptor

open Http Http.Headers

/-! ### Fields that are read -/

/-- A pair of texts as a field. -/
def field (f : String × String) : HeaderName × HeaderValue := (⟨Text.lowerAscii f.1⟩, ⟨Text.bytes f.2, false⟩)

theorem parseHeader_field {name value : String} {p : HeaderName × HeaderValue}
    (h : Request.parseHeader name value = .ok p) : p = field (name, value) := by
  rw [Request.parseHeader] at h
  split at h
  · cases h
  · cases h
  · next n v hn hv =>
    cases h
    rw [HeaderName.ofText?, Option.ite_none_right_eq_some] at hn
    rw [HeaderValue.ofText?, HeaderValue.ofBytes?, Option.ite_none_right_eq_some] at hv
    rw [← Option.some.inj hn.2, ← Option.some.inj hv.2, field]

variable {fs fs' : List (String × String)} {n : HeaderName}

namespace HeaderEdits

theorem parseFields_ok_iff : ∀ {fs : List (String × String)} {ps : List (HeaderName × HeaderValue)},
    parseFields fs = .ok ps ↔ ps = fs.map field ∧ ∀ f ∈ fs, Request.parseHeader f.1 f.2 = .ok (field f)
  | [], ps => by
    constructor
    · rintro ⟨⟩
      exact ⟨rfl, nofun⟩
    · rintro ⟨rfl, -⟩
      rfl
  | f :: fs, ps => by
    have ih {qs : List (HeaderName × HeaderValue)} : fs.mapM (fun f => Request.parseHeader f.1 f.2) = .ok qs ↔ _ :=
      parseFields_ok_iff
    rw [parseFields, List.mapM_cons, List.forall_mem_cons, List.map_cons]
    constructor
    · intro h
      cases hp : Request.parseHeader f.1 f.2 with
      | error x => rw [hp] at h; cases h
      | ok p =>
        cases hqs : fs.mapM fun f => Request.parseHeader f.1 f.2 with
        | error x => rw [hp, hqs] at h; cases h
        | ok qs =>
          rw [hp, hqs] at h
          cases h
          cases parseHeader_field hp
          obtain ⟨rfl, hall⟩ := ih.mp hqs
          exact ⟨rfl, rfl, hall⟩
    · rintro ⟨rfl, hp, hall⟩
      rw [hp, ih.mpr ⟨rfl, hall⟩]
      rfl

theorem parseFields_perm (hp : fs.Perm fs') {ps : List (HeaderName × HeaderValue)}
    (h : parseFields fs = .ok ps) : parseFields fs' = .ok (fs'.map field) :=
  parseFields_ok_iff.mpr ⟨rfl, fun f hf => (parseFields_ok_iff.mp h).2 f (hp.mem_iff.mpr hf)⟩

theorem ofConfig_ok_iff {c : HeaderConfig} {e : HeaderEdits} : ofConfig c = .ok e ↔
    parseFields c.set = .ok e.set ∧ parseFields c.defaults = .ok e.defaults ∧
      c.remove.mapM parseName = .ok e.remove := by
  obtain ⟨set, defaults, remove⟩ := e
  rw [ofConfig]
  cases parseFields c.set <;> cases parseFields c.defaults <;> cases c.remove.mapM parseName <;>
    simp [bind, Except.bind, pure, Except.pure]

end HeaderEdits

/-- Fields with one value for a name, in other orders. -/
theorem lookup_fields (hp : fs.Perm fs')
    (hone : ∀ f ∈ fs, ∀ g ∈ fs, (field f).1 = n → (field g).1 = n → f.2 = g.2) :
    (fs.map field).lookup n = (fs'.map field).lookup n := by
  refine lookup_perm (hp.map field) fun v v' hv hv' => ?_
  obtain ⟨f, hf, hfield⟩ := List.mem_map.mp hv
  obtain ⟨g, hg, hfield'⟩ := List.mem_map.mp hv'
  have hvalue := hone f hf g hg (congrArg Prod.fst hfield) (congrArg Prod.fst hfield')
  calc v = (field f).2 := (congrArg Prod.snd hfield).symm
    _ = (field g).2 := by rw [field, field, hvalue]
    _ = v' := congrArg Prod.snd hfield'

theorem unset_iff : (fs.map field).reverse.lookup n = none ↔ ∀ f ∈ fs, (field f).1 ≠ n := by
  simp only [List.lookup_eq_none_iff, List.mem_reverse, List.forall_mem_map, bne_iff_ne, ne_comm]

/-! ### Configurations in other orders -/

/-- The same fields in other orders. -/
structure HeaderConfig.Reordered (c c' : HeaderConfig) : Prop where
  set : c.set.Perm c'.set
  defaults : c.defaults.Perm c'.defaults
  remove : c.remove = c'.remove

/-- Keys that differ in case only have one value; a default may have several if the name is set. -/
structure HeaderConfig.Unambiguous (c : HeaderConfig) : Prop where
  set : ∀ f ∈ c.set, ∀ g ∈ c.set, Text.lowerAscii f.1 = Text.lowerAscii g.1 → f.2 = g.2
  defaults : ∀ f ∈ c.defaults, ∀ g ∈ c.defaults, Text.lowerAscii f.1 = Text.lowerAscii g.1 →
    f.2 = g.2 ∨ ∃ s ∈ c.set, Text.lowerAscii s.1 = Text.lowerAscii f.1

variable {W : Type}

/-- Whatever the request, the same comes out. -/
def Same (i i' : Interceptor W) : Prop :=
  ∀ r w, (i.apply r w).1 = (i'.apply r w).1 ∧ (i.apply r w).2.Same (i'.apply r w).2

/-- Edits are the same if they find the same field for each name; a default needs to be found only for a
    name that is not set. -/
theorem same_of_lookup {e e' : HeaderEdits} (hset : ∀ n, e.set.reverse.lookup n = e'.set.reverse.lookup n)
    (hdefaults : ∀ n, e.set.reverse.lookup n = none → e.defaults.lookup n = e'.defaults.lookup n)
    (hremove : e.remove = e'.remove) :
    (ofHeaders "header" e.run : Interceptor W).Same (ofHeaders "header" e'.run) := by
  refine fun r w => ⟨rfl, rfl, rfl, rfl, fun n => ?_, fun n => ?_⟩
  · show values n (e.run r.headers) = values n (e'.run r.headers)
    rw [HeaderEdits.values_run, HeaderEdits.values_run, HeaderEdits.outcome, HeaderEdits.outcome, ← hset n]
    cases h : e.set.reverse.lookup n with
    | none => rw [hdefaults n h, hremove]
    | some v => rfl
  · show contains n (e.run r.headers) = contains n (e'.run r.headers)
    rw [HeaderEdits.contains_run, HeaderEdits.contains_run, ← hset n]
    cases h : e.set.reverse.lookup n with
    | none => rw [hdefaults n h, hremove]
    | some v => simp

/-- The interceptor of a configuration whose names to remove are read already. -/
def edits (c : HeaderConfig) (remove : List HeaderName) : Interceptor W :=
  ofHeaders "header" (HeaderEdits.run ⟨c.set.map field, c.defaults.map field, remove⟩)

variable {c c' : HeaderConfig} {remove : List HeaderName}

/-- A configuration is accepted in all orders if it is accepted in one. -/
theorem headers_reordered {i : Interceptor W} (h : headers c = .ok i) :
    ∃ remove, ∀ c', c.Reordered c' → headers (W := W) c' = .ok (edits c' remove) := by
  obtain ⟨e, he, -⟩ := headers_ok h
  obtain ⟨hset, hdefaults, hremove⟩ := HeaderEdits.ofConfig_ok_iff.mp he
  refine ⟨e.remove, fun c' hr => ?_⟩
  have he' : HeaderEdits.ofConfig c' = .ok ⟨c'.set.map field, c'.defaults.map field, e.remove⟩ :=
    HeaderEdits.ofConfig_ok_iff.mpr ⟨HeaderEdits.parseFields_perm hr.set hset,
      HeaderEdits.parseFields_perm hr.defaults hdefaults, hr.remove ▸ hremove⟩
  rw [headers, he']
  rfl

/-! ### What the order decides -/

/-- No order is seen where each name has one value. -/
theorem edits_same (hu : c.Unambiguous) (hr : c.Reordered c') :
    (edits c remove : Interceptor W).Same (edits c' remove) := by
  refine same_of_lookup (fun n => ?_) (fun n hnone => ?_) rfl
  · rw [← List.map_reverse, ← List.map_reverse]
    refine lookup_fields ((List.reverse_perm _).trans (hr.set.trans (List.reverse_perm _).symm)) ?_
    intro f hf g hg hn hn'
    exact hu.set f (List.mem_reverse.mp hf) g (List.mem_reverse.mp hg) (congrArg HeaderName.text (hn.trans hn'.symm))
  · -- Defaults are looked at only where nothing is set, so two values would have to be one.
    refine lookup_fields hr.defaults fun f hf g hg hn hn' => ?_
    rcases hu.defaults f hf g hg (congrArg HeaderName.text (hn.trans hn'.symm)) with hvalue | ⟨s, hs, hname⟩
    · exact hvalue
    · have hset : (field s).1 = n := (congrArg HeaderName.mk hname).trans hn
      exact absurd hset (unset_iff.mp hnone s hs)

/-- Whatever is set may be set last. -/
theorem exists_last (remove : List HeaderName) {f : String × String} (hf : f ∈ c.set) : ∃ c', c.Reordered c' ∧
    ∀ (r : Request W) w, values (field f).1 ((edits c' remove).apply r w).2.headers = [(field f).2] := by
  refine ⟨{ c with set := c.set.erase f ++ [f] }, ⟨?_, .refl _, rfl⟩, fun r w => ?_⟩
  · exact (List.perm_cons_erase hf).trans (List.perm_append_singleton _ _).symm
  · show values (field f).1 (HeaderEdits.run _ r.headers) = _
    rw [HeaderEdits.values_run, HeaderEdits.outcome, List.map_append, List.reverse_append, List.map_singleton,
      List.reverse_singleton, List.singleton_append, HeaderEdits.lookup_cons_ite, if_pos rfl]

/-- Whatever is a default may be the first one. -/
theorem exists_first (remove : List HeaderName) {f : String × String} (hf : f ∈ c.defaults)
    (hset : ∀ s ∈ c.set, Text.lowerAscii s.1 ≠ Text.lowerAscii f.1) : ∃ c', c.Reordered c' ∧
    ∀ (r : Request W) w, contains (field f).1 r.headers = false →
      values (field f).1 ((edits c' remove).apply r w).2.headers = [(field f).2] := by
  refine ⟨{ c with defaults := f :: c.defaults.erase f }, ⟨.refl _, List.perm_cons_erase hf, rfl⟩, fun r w hr => ?_⟩
  have hunset : (c.set.map field).reverse.lookup (field f).1 = none :=
    unset_iff.mpr fun s hs hname => hset s hs (congrArg HeaderName.text hname)
  show values (field f).1 (HeaderEdits.run _ r.headers) = _
  rw [HeaderEdits.values_run, HeaderEdits.outcome, hunset, List.map_cons, HeaderEdits.lookup_cons_ite, if_pos rfl]
  exact if_pos (.inl hr)

/-- Where no order is seen, each name has one value. -/
theorem unambiguous_of_same [Nonempty W]
    (hsame : ∀ c', c.Reordered c' → (edits c remove : Interceptor W).Same (edits c' remove)) : c.Unambiguous := by
  obtain ⟨w⟩ := ‹Nonempty W›
  let r : Request W := .make .get ⟨"http", none, false, "/", none, none⟩
  -- Each key of a name is the last one in some order, and what is sent is the same in all of them.
  let sent (n : HeaderName) : List HeaderValue := values n ((edits c remove).apply r w).2.headers
  have hset : ∀ f ∈ c.set, sent (field f).1 = [(field f).2] := by
    intro f hf
    obtain ⟨c', hr, hlast⟩ := exists_last (W := W) remove hf
    exact ((hsame c' hr r w).2.values _).trans (hlast r w)
  have hdefault : ∀ f ∈ c.defaults, (∀ s ∈ c.set, Text.lowerAscii s.1 ≠ Text.lowerAscii f.1) →
      sent (field f).1 = [(field f).2] := by
    intro f hf hunset
    obtain ⟨c', hr, hfirst⟩ := exists_first (W := W) remove hf hunset
    exact ((hsame c' hr r w).2.values _).trans (hfirst r w rfl)
  have hvalue {f g : String × String} (hname : Text.lowerAscii f.1 = Text.lowerAscii g.1)
      (hf : sent (field f).1 = [(field f).2]) (hg : sent (field g).1 = [(field g).2]) : f.2 = g.2 := by
    have hn : (field f).1 = (field g).1 := congrArg HeaderName.mk hname
    rw [hn, hg] at hf
    exact (Text.bytes_injective (congrArg HeaderValue.bytes (List.singleton_inj.mp hf))).symm
  constructor
  · intro f hf g hg hname
    exact hvalue hname (hset f hf) (hset g hg)
  · intro f hf g hg hname
    by_cases hs : ∃ s ∈ c.set, Text.lowerAscii s.1 = Text.lowerAscii f.1
    · exact .inr hs
    · have hunset : ∀ s ∈ c.set, Text.lowerAscii s.1 ≠ Text.lowerAscii f.1 := fun s hmem he => hs ⟨s, hmem, he⟩
      exact .inl (hvalue hname (hdefault f hf hunset) (hdefault g hg (hname ▸ hunset)))

/-- A configuration that is accepted is accepted in all orders of its dictionaries. The interceptors make the
    same of every request in all of them if and only if it is unambiguous: keys of `set` that differ in case
    only have one value, and so have those of `defaults` whose name is not in `set`. -/
theorem order_unseen_iff [Nonempty W] {i : Interceptor W} (h : headers c = .ok i) :
    (∀ c', c.Reordered c' → ∃ i' : Interceptor W, headers c' = .ok i') ∧
      ((∀ c' (i' : Interceptor W), c.Reordered c' → headers c' = .ok i' → i.Same i') ↔ c.Unambiguous) := by
  obtain ⟨remove, hread⟩ := headers_reordered h
  have hi : i = edits c remove := Except.ok.inj (h.symm.trans (hread c ⟨.refl _, .refl _, rfl⟩))
  subst hi
  refine ⟨fun c' hr => ⟨_, hread c' hr⟩, fun hall => ?_, fun hu c' i' hr hi' => ?_⟩
  · exact unambiguous_of_same fun c' hr => hall c' _ hr (hread c' hr)
  · cases Except.ok.inj (hi'.symm.trans (hread c' hr))
    exact edits_same hu hr

/-- One name as two keys of one value, and defaults for it that are never needed. -/
def agreeing : HeaderConfig := ⟨[("X-A", "1"), ("x-a", "1")], [("X-A", "2"), ("x-a", "3"), ("x-b", "4")], []⟩

/-- All orders are the same to it. -/
theorem order_unseen_of_agreeing : ∃ i : Interceptor Unit, headers agreeing = .ok i ∧
    ∀ c' (i' : Interceptor Unit), agreeing.Reordered c' → headers c' = .ok i' → i.Same i' := by
  have hi : headers agreeing = .ok (edits agreeing [] : Interceptor Unit) := rfl
  exact ⟨_, hi, (order_unseen_iff hi).2.mpr ⟨by decide +kernel, by decide +kernel⟩⟩

/-- One name as two keys of two values, among those to set and among the defaults. -/
def divided : HeaderConfig := ⟨[("X-A", "1"), ("x-a", "2")], [("X-B", "1"), ("x-b", "2")], []⟩

/-- In the other order the same keys make something else of a request: the last value is set, and the first
    default is given. -/
theorem order_seen_of_divided :
    let turned : HeaderConfig := ⟨divided.set.reverse, divided.defaults.reverse, divided.remove⟩
    let one : HeaderValue := ⟨Text.bytes "1", false⟩
    let two : HeaderValue := ⟨Text.bytes "2", false⟩
    (divided.set.map Prod.fst).Nodup ∧ (divided.defaults.map Prod.fst).Nodup ∧ divided.Reordered turned ∧
      ∃ i i' : Interceptor Unit, headers divided = .ok i ∧ headers turned = .ok i' ∧
        ∀ r : Request Unit, r.headers = [] →
          values ⟨"x-a"⟩ (i.apply r ()).2.headers = [two] ∧ values ⟨"x-a"⟩ (i'.apply r ()).2.headers = [one] ∧
          values ⟨"x-b"⟩ (i.apply r ()).2.headers = [one] ∧ values ⟨"x-b"⟩ (i'.apply r ()).2.headers = [two] := by
  intro turned one two
  have hr : divided.Reordered turned := ⟨(List.reverse_perm _).symm, (List.reverse_perm _).symm, rfl⟩
  refine ⟨by decide, by decide, hr, edits divided [], edits turned [], rfl, rfl, fun r hnone => ?_⟩
  simp only [edits, ofHeaders, hnone]
  decide +kernel

end Interceptor
end Courier
