import Courier.Interceptor.Basic

/-! Chains of chains.

    An interceptor may be a chain, whose parts may be chains again. However deep they are, a tree of chains
    applies its leaves, each once and from left to right, each to the request of the one before it, and
    does nothing else but to name them in the log (`Tree.through`). So trees with the same leaves do the
    same where the log is not seen (`Tree.same`): the tree may be flat, and chains without parts count for
    nothing. -/

namespace Courier.Interceptor

variable {W : Type}

/-! ### Trees -/

mutual

/-- An interceptor as it was built: one of its own kind, or a chain of parts. -/
inductive Tree (W : Type) where
  | leaf (i : Interceptor W)
  | chain (parts : Parts W)

/-- The parts of a chain: there are two ways to add one behind the others. -/
inductive Parts (W : Type) where
  | none
  | append (parts : Parts W) (part : Tree W)
  | push (parts : Parts W) (part : Tree W)

end

section

variable [Ambient W]

mutual

/-- The interceptor that was built. -/
def Tree.interceptor : Tree W → Interceptor W
  | .leaf i => i
  | .chain parts => chain parts.interceptors

/-- The interceptors of the parts. -/
def Parts.interceptors : Parts W → List (Interceptor W)
  | .none => []
  | .append parts part => parts.interceptors ++ [part.interceptor]
  | .push parts part => parts.interceptors ++ [part.interceptor]

end

end

mutual

/-- The leaves from left to right. -/
def Tree.leaves : Tree W → List (Interceptor W)
  | .leaf i => [i]
  | .chain parts => parts.leaves

/-- The leaves of the parts from left to right. -/
def Parts.leaves : Parts W → List (Interceptor W)
  | .none => []
  | .append parts part => parts.leaves ++ part.leaves
  | .push parts part => parts.leaves ++ part.leaves

end

/-! ### What a chain does -/

section

variable [Ambient W]

/-- From a request to another one through some interceptors: each is applied once, in their order, to the
    request of the one before it. Besides, interceptors are named in the log. -/
inductive Through : List (Interceptor W) → Request W → W → Request W → W → Prop
  | done {r w} : Through [] r w r w
  | named {is r w r' w'} (name : String)
      (h : Through is r (Ambient.record .trace "Interceptor" ("applying '" ++ name ++ "'") w) r' w') :
      Through is r w r' w'
  | applied {i is r w r₁ w₁ r' w'} (hi : i.apply r w = (w₁, r₁)) (h : Through is r₁ w₁ r' w') :
      Through (i :: is) r w r' w'

theorem Through.append {is js : List (Interceptor W)} {r r₁ r' : Request W} {w w₁ w' : W}
    (h : Through is r w r₁ w₁) (h' : Through js r₁ w₁ r' w') : Through (is ++ js) r w r' w' := by
  induction h with
  | done => exact h'
  | named name _ ih => exact .named name (ih h')
  | applied hi _ ih => exact .applied hi (ih h')

theorem applyAll_append : ∀ (is js : List (Interceptor W)) (r : Request W) (w : W),
    applyAll (is ++ js) r w = applyAll js (applyAll is r w).2 (applyAll is r w).1
  | [], _, _, _ => rfl
  | _ :: is, js, _, _ => applyAll_append is js _ _

/-- The last of several interceptors is named and applied to what the others have made. -/
theorem applyAll_concat (is : List (Interceptor W)) (i : Interceptor W) (r : Request W) (w : W) :
    applyAll (is ++ [i]) r w = i.apply (applyAll is r w).2
      (Ambient.record .trace "Interceptor" ("applying '" ++ i.name ++ "'") (applyAll is r w).1) := by
  rw [applyAll_append]
  rfl

mutual

/-- A tree applies its leaves. -/
theorem Tree.through : ∀ (t : Tree W) (r : Request W) (w : W),
    Through t.leaves r w (t.interceptor.apply r w).2 (t.interceptor.apply r w).1
  | .leaf _, _, _ => .applied rfl .done
  | .chain parts, r, w => parts.through r w

/-- The parts of a chain apply their leaves. -/
theorem Parts.through : ∀ (parts : Parts W) (r : Request W) (w : W),
    Through parts.leaves r w (applyAll parts.interceptors r w).2 (applyAll parts.interceptors r w).1
  | .none, _, _ => .done
  | .append parts part, r, w => by
    rw [Parts.leaves, Parts.interceptors, applyAll_concat]
    exact (parts.through r w).append (.named _ (part.through _ _))
  | .push parts part, r, w => by
    rw [Parts.leaves, Parts.interceptors, applyAll_concat]
    exact (parts.through r w).append (.named _ (part.through _ _))

end

/-- Several interceptors go through themselves. -/
theorem applyAll_through : ∀ (is : List (Interceptor W)) (r : Request W) (w : W),
    Through is r w (applyAll is r w).2 (applyAll is r w).1
  | [], _, _ => .done
  | i :: is, _, _ => .named i.name (.applied rfl (applyAll_through is _ _))

/-! ### Trees with the same leaves -/

variable {P : Type} {view : W → P}

/-- What is logged at the lowest level is out of view. -/
def TraceHidden (view : W → P) : Prop :=
  ∀ part message w, view (Ambient.record .trace part message w) = view w

/-- What the interceptor does can be told from the request and the view. -/
def Sees (view : W → P) (i : Interceptor W) : Prop := ∀ r v w, view v = view w →
  (i.apply r v).2 = (i.apply r w).2 ∧ view (i.apply r v).1 = view (i.apply r w).1

omit [Ambient W] in
/-- Changes of header fields do not depend on the surroundings at all. -/
theorem ofHeaders_sees (view : W → P) (name : String) (edit : Http.Headers → Http.Headers) :
    (ofHeaders name edit).Sees view := fun _ _ _ h => ⟨rfl, h⟩

theorem Through.of_nil (hlog : TraceHidden view) {r r' : Request W} {w w' : W} (h : Through [] r w r' w') :
    r' = r ∧ view w' = view w := by
  generalize his : ([] : List (Interceptor W)) = is at h
  induction h with
  | done => exact ⟨rfl, rfl⟩
  | named name _ ih =>
    obtain ⟨hr, hw⟩ := ih his
    exact ⟨hr, hw.trans (hlog ..)⟩
  | applied => cases his

theorem Through.of_cons (hlog : TraceHidden view) {i : Interceptor W} {is : List (Interceptor W)}
    {r r' : Request W} {w w' : W} (h : Through (i :: is) r w r' w') :
    ∃ u, view u = view w ∧ Through is (i.apply r u).2 (i.apply r u).1 r' w' := by
  generalize his : i :: is = js at h
  induction h with
  | done => cases his
  | named name _ ih =>
    obtain ⟨u, hu, hrest⟩ := ih his
    exact ⟨u, hu.trans (hlog ..), hrest⟩
  | applied hi hrest _ =>
    cases his
    refine ⟨_, rfl, ?_⟩
    rw [hi]
    exact hrest

/-- The same interceptors make the same request, whenever they are named. -/
theorem Through.same (hlog : TraceHidden view) {is : List (Interceptor W)} {r r' : Request W} {v v' : W}
    (h : Through is r v r' v') : (∀ i ∈ is, i.Sees view) → ∀ {r'' : Request W} {w w' : W},
      Through is r w r'' w' → view v = view w → r' = r'' ∧ view v' = view w' := by
  induction h with
  | done =>
    rintro - r'' w w' h' hv
    obtain ⟨rfl, hw⟩ := h'.of_nil hlog
    exact ⟨rfl, hv.trans hw.symm⟩
  | named name _ ih =>
    rintro his r'' w w' h' hv
    exact ih his h' ((hlog ..).trans hv)
  | applied hi _ ih =>
    rintro his r'' w w' h' hv
    obtain ⟨hi', his'⟩ := List.forall_mem_cons.mp his
    obtain ⟨u, hu, hrest⟩ := h'.of_cons hlog
    obtain ⟨hmade, hview⟩ := hi' _ _ _ (hv.trans hu.symm)
    rw [hi] at hmade hview
    rw [← hmade] at hrest
    exact ih his' hrest hview

/-- Trees with the same leaves do the same, the log aside. -/
theorem Tree.same (hlog : TraceHidden view) {t t' : Tree W} (hleaves : t'.leaves = t.leaves)
    (ht : ∀ i ∈ t.leaves, i.Sees view) (r : Request W) (w : W) :
    (t'.interceptor.apply r w).2 = (t.interceptor.apply r w).2 ∧
      view (t'.interceptor.apply r w).1 = view (t.interceptor.apply r w).1 :=
  (t'.through r w).same hlog (hleaves ▸ ht) (hleaves ▸ t.through r w) rfl

/-- A tree does the same as the chain of its leaves, the log aside. -/
theorem Tree.flat (hlog : TraceHidden view) {t : Tree W} (ht : ∀ i ∈ t.leaves, i.Sees view) (r : Request W)
    (w : W) : (t.interceptor.apply r w).2 = ((Interceptor.chain t.leaves).apply r w).2 ∧
      view (t.interceptor.apply r w).1 = view ((Interceptor.chain t.leaves).apply r w).1 :=
  (t.through r w).same hlog ht (applyAll_through t.leaves r w) rfl

end

end Courier.Interceptor
