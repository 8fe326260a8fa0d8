import Courier.Proofs.Alike.Parts
import Courier.Proofs.Alike.Request

/-! Requests that differ in what is sensitive.

    Two requests may differ in the values of header fields as long as these are sensitive in both. The
    interceptors of the library look at the names of header fields and never at the values, and the
    credentials they send are sensitive. So they keep such requests as they are: different only in what is
    sensitive (`Interceptor.Veiled.alike`). -/

namespace Courier

variable {V W : Type}

/-! ### Header fields -/

namespace Http

/-- The same value, or two that are sensitive. -/
def HeaderValue.Veiled (v v' : HeaderValue) : Prop := v = v' ∨ (v.sensitive = true ∧ v'.sensitive = true)

/-- The same names in the same order, with as many values, which differ only where they are sensitive. -/
def Headers.Veiled : Headers → Headers → Prop :=
  List.Forall₂ fun h h' => h.1 = h'.1 ∧ List.Forall₂ HeaderValue.Veiled h.2 h'.2

namespace Headers

variable {hs hs' : Headers} {v v' : HeaderValue}

theorem Veiled.refl (hs : Headers) : hs.Veiled hs :=
  List.forall₂_same.mpr fun _ _ => ⟨rfl, List.forall₂_same.mpr fun _ _ => .inl rfl⟩

/-- A name that is new goes behind the others in both, one that is there keeps its place in both. -/
theorem Veiled.insert (h : hs.Veiled hs') (name : HeaderName) (hv : v.Veiled v') :
    (insert name v hs).Veiled (Headers.insert name v' hs') := by
  have hvalue : List.Forall₂ HeaderValue.Veiled [v] [v'] := .cons hv .nil
  induction h with
  | nil => exact .cons ⟨rfl, hvalue⟩ .nil
  | cons hfield hrest ih =>
    next field field' rest rest' =>
    obtain ⟨n, vs⟩ := field
    obtain ⟨n', vs'⟩ := field'
    obtain ⟨rfl, hvs⟩ : n = n' ∧ List.Forall₂ HeaderValue.Veiled vs vs' := hfield
    rw [Headers.insert, Headers.insert]
    split
    · exact .cons ⟨rfl, hvalue⟩ hrest
    · exact .cons ⟨rfl, hvs⟩ ih

theorem Veiled.remove (h : hs.Veiled hs') (name : HeaderName) :
    (remove name hs).Veiled (Headers.remove name hs') := by
  induction h with
  | nil => exact .nil
  | cons hfield _ ih =>
    simp only [Headers.remove, List.filter_cons, hfield.1] at ih ⊢
    split
    · exact .cons hfield ih
    · exact ih

theorem Veiled.contains (h : hs.Veiled hs') (name : HeaderName) : contains name hs = Headers.contains name hs' := by
  induction h with
  | nil => rfl
  | cons hfield _ ih =>
    simp only [Headers.contains, List.any_cons, hfield.1] at ih ⊢
    rw [ih]

end Headers
end Http

/-! ### Requests and interceptors -/

/-- The same request but for sensitive values, with bodies that are alike. -/
structure Request.Veiled (agree : V → W → Prop) (r : Request V) (r' : Request W) : Prop where
  method : r.method = r'.method
  uri : r.uri = r'.uri
  headers : r.headers.Veiled r'.headers
  body : Option.Rel (Body.Alike agree) r.body r'.body

namespace Interceptor

variable {hs hs' : Http.Headers}

/-- One edit after the other. -/
theorem foldl_veiled {α : Type} {f : Http.Headers → α → Http.Headers}
    (hf : ∀ x hs hs', Http.Headers.Veiled hs hs' → (f hs x).Veiled (f hs' x)) (xs : List α) (h : hs.Veiled hs') :
    (xs.foldl f hs).Veiled (xs.foldl f hs') := by
  induction xs generalizing hs hs' with
  | nil => exact h
  | cons x xs ih => exact ih (hf x _ _ h)

/-- Edits go by the names. -/
theorem HeaderEdits.run_veiled (e : HeaderEdits) (h : hs.Veiled hs') : (e.run hs).Veiled (e.run hs') := by
  have hremoved := foldl_veiled (f := fun hs n => Http.Headers.remove n hs) (fun n _ _ h => h.remove n) e.remove h
  have hset := foldl_veiled (f := fun hs g => Http.Headers.insert g.1 g.2 hs)
    (fun g _ _ h => h.insert g.1 (.inl rfl)) e.set hremoved
  refine foldl_veiled (fun g hs hs' h => ?_) e.defaults hset
  rw [addDefault, addDefault, h.contains]
  split
  · exact h
  · exact h.insert g.1 (.inl rfl)

/-- Interceptors of the library that differ only in the credentials that they send. -/
inductive Veiled [Ambient V] [Ambient W] : Interceptor V → Interceptor W → Prop where
  | header (e : HeaderEdits) : Veiled (ofHeaders "header" e.run) (ofHeaders "header" e.run)
  | basicAuth (c c' : Credentials) : Veiled (basicAuth c) (basicAuth c')
  | chainNil : Veiled (chain []) (chain [])
  | chainCons {i i' is is'} (h : Veiled i i') (hrest : Veiled (chain is) (chain is')) :
    Veiled (chain (i :: is)) (chain (i' :: is'))

variable [Ambient V] [Ambient W] {agree : V → W → Prop}

theorem Veiled.chain {is : List (Interceptor V)} {is' : List (Interceptor W)} (h : List.Forall₂ Veiled is is') :
    Veiled (chain is) (Interceptor.chain is') := by
  induction h with
  | nil => exact .chainNil
  | cons hi _ ih => exact .chainCons hi ih

omit [Ambient V] [Ambient W] in
/-- What is done to the header fields alone. -/
theorem ofHeaders_veiled (name : String) {edit edit' : Http.Headers → Http.Headers}
    (hedit : ∀ hs hs', Http.Headers.Veiled hs hs' → (edit hs).Veiled (edit' hs')) :
    (ofHeaders name edit).Alike agree (Request.Veiled agree) (ofHeaders name edit') where
  name := rfl
  apply _ _ hr _ _ hv := ⟨hv, hr.method, hr.uri, hedit _ _ hr.headers, hr.body⟩

/-- Neither in the log nor in the requests are there other differences than in what is sensitive. -/
theorem Veiled.alike (heffects : EffectsAlike agree) {i : Interceptor V} {i' : Interceptor W} (h : Veiled i i') :
    i.Alike agree (Request.Veiled agree) i' := by
  induction h with
  | header e => exact ofHeaders_veiled _ fun _ _ => e.run_veiled
  | basicAuth c c' => exact ofHeaders_veiled _ fun _ _ h => h.insert _ (.inr ⟨rfl, rfl⟩)
  | chainNil => exact ⟨rfl, fun r r' hr v w hv => ⟨hv, hr⟩⟩
  | chainCons _ _ hi hrest =>
    next i i' _ _ _ _ =>
    refine ⟨rfl, fun r r' hr v w hv => ?_⟩
    have hlogged := heffects.record .trace "Interceptor" ("applying '" ++ i.name ++ "'") v w hv
    obtain ⟨happlied, hchanged⟩ := hi.apply r r' hr _ _ hlogged
    simp only [Interceptor.chain, applyAll, ← hi.name]
    exact hrest.apply _ _ hchanged _ _ happlied

end Interceptor
end Courier
