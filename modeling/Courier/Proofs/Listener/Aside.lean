import Courier.Proofs.Quiet

/-! Calls with a listener that writes no notes.

    Such a listener acts on the surroundings between the steps of a call, as the caller may do itself.
    So the call it watches is a call that nobody watches, with a caller that acts a little more
    (`call_toEnd`). -/

namespace Courier

variable {W E α : Type}

/-- A hook on each item is something the reader does before it goes on. -/
theorem Step.readBy_tap (f : α → W → W) (act act' : List α → W → W)
    (h : ∀ seen x w, act' (seen ++ [x]) w = act (seen ++ [x]) (f x w)) : ∀ (t : Step W α) (seen : List α),
    (t.tap f).readBy (fun seen w => some (act seen w)) seen
      = t.readBy (fun seen w => some (act' seen w)) seen
  | .done _, _ => rfl
  | .item w x more, seen => by
    rw [tap, readBy, readBy, h]
    exact readBy_tap f act act' h _ _
  | .never _, _ => rfl

/-- The reader, with a hook on each item before it goes on. -/
def Reader.after (f : α → W → W) (r : Reader W α) : Reader W α := fun seen w => match seen.getLast? with
  | some x => r seen (f x w)
  | none => r seen w

/-- The caller, with a hook on each element before it goes on. -/
def Use.after (f : Except Failure Json → W → W) : Use W → Use W
  | .body reader => .body (reader.after f)
  | use => use

theorem Use.after_takes (f : Except Failure Json → W → W) (arity : Arity) (js : List Json) :
    ∀ use : Use W, (use.after f).takes arity js = use.takes arity js
  | .leave => rfl
  | .body _ => rfl
  | .data => rfl

theorem Use.Keeps.after {acts : W → W → Prop} (hacts : ∀ {u v w}, acts u v → acts v w → acts u w)
    {f : Except Failure Json → W → W} (hf : ∀ x w, acts w (f x w)) : ∀ {use : Use W}, use.Keeps acts →
      (use.after f).Keeps acts
  | .leave, _ => trivial
  | .data, h => h
  | .body reader, h => by
    intro seen w w' hread
    simp only [Reader.after] at hread
    split at hread
    · exact hacts (hf _ _) (h _ _ _ hread)
    · exact h _ _ _ hread

/-- A hook that writes nothing is as good as one the reader has itself. -/
theorem Step.readBy_hook {f : α → Noted W E → Noted W E} (hf : ∀ x v, (f x v).notes = v.notes)
    (r : Reader (Noted W E) α) : ∀ (t : Step (Noted W E) α) (seen : List α),
    ((t.tap f).readBy r seen).1.notes = (t.readBy (r.after f) seen).1.notes ∧
      ((t.tap f).readBy r seen).2 = (t.readBy (r.after f) seen).2
  | .done _, _ => ⟨rfl, rfl⟩
  | .item v x more, seen => by
    have hafter : r.after f (seen ++ [x]) v = r (seen ++ [x]) (f x v) := by
      rw [Reader.after, List.getLast?_concat]
    rw [tap, readBy, readBy, hafter]
    cases r (seen ++ [x]) (f x v) with
    | none => exact ⟨hf x v, rfl⟩
    | some v' => exact readBy_hook hf r (more v') _
  | .never _, _ => ⟨rfl, rfl⟩

variable [Ambient W]

namespace Listener

theorem start_notes (methodKey : String) (request : Request (Noted W E)) (v : Noted W E) :
    (CallContext.start methodKey request v).1.notes = v.notes := rfl

/-- Elements are shown to a listener that writes nothing as the reader may look at them itself. -/
theorem serve_watched {l : Listener (Noted W E)} {call : CallContext}
    (hl : ∀ item v, (l.tellItem call item v).notes = v.notes)
    (r : Response (Noted W E)) : ∀ (use : Use (Noted W E)) (v : Noted W E),
    ((l.watchResponse call r).serve use v).1.notes = (r.serve (use.after (l.tellItem call)) v).1.notes ∧
      ((l.watchResponse call r).serve use v).2 = (r.serve (use.after (l.tellItem call)) v).2
  | .leave, _ => ⟨rfl, rfl⟩
  | .data, _ => ⟨rfl, rfl⟩
  | .body reader, v => by
    have hfirst : reader.after (l.tellItem call) [] (r.body v).1 = reader [] (r.body v).1 := rfl
    simp only [watchResponse, Response.serve, Use.after, Stream.readBy, Stream.tap, hfirst]
    cases reader [] (r.body v).1 with
    | none => exact ⟨rfl, rfl⟩
    | some v' =>
      obtain ⟨hnotes, hseen⟩ := Step.readBy_hook hl reader ((r.body v).2 v') []
      exact ⟨hnotes, congrArg Taken.items hseen⟩

/-- A call with a quiet listener is a call of the exchange behind it, up to the notes that nobody
    wrote. -/
theorem call_toEnd {l : Listener (Noted W E)} (hl : l.Quiet) (methodKey : String)
    {inner : Exchange (Noted W E)} (hinner : ∀ request v v' r, inner.execute request v = (v', .ok r) →
      ∃ items, r.body = fun u => (u, items))
    (request : Request (Noted W E)) {act : List (Except Failure Json) → Noted W E → Noted W E}
    (hact : ∀ seen v, (act seen v).notes = v.notes) (v : Noted W E) :
    ∃ request' act' v', (∀ seen v, (act' seen v).notes = v.notes) ∧ v'.notes = v.notes ∧
      ((l.exchange methodKey inner).call request (.toEnd act) v).1.notes
        = (inner.call request' (.toEnd act') v').1.notes ∧
      ((l.exchange methodKey inner).call request (.toEnd act) v).2
        = (inner.call request' (.toEnd act') v').2 := by
  rcases hstart : CallContext.start methodKey request v with ⟨v₁, context⟩
  have hfresh : v₁.notes = v.notes := by
    rw [← start_notes methodKey request v, hstart]
  have hstarted : (l.notify (.requestStarted context request) v₁).notes = v.notes := (hl _ _).trans hfresh
  have hitem : ∀ item u, (l.tellItem context item u).notes = u.notes := by
    intro item u
    cases item <;> exact hl _ _
  rcases hx : inner.execute (l.watchRequest context request)
    (l.notify (.requestStarted context request) v₁) with ⟨v₂, e | r | _⟩
  · refine ⟨l.watchRequest context request, act, _, hact, hstarted, ?_⟩
    rw [l.watched_of_error hstart hx, Exchange.call_of_error hx]
    exact ⟨hl _ _, rfl⟩
  · obtain ⟨items, hbody⟩ := hinner _ _ _ _ hx
    let told (u : Noted W E) : Noted W E :=
      l.notify (.responseReceived context r.status r.headers (context.elapsed u)) u
    -- the listener is told of an item just before the reader goes on
    let act' (seen : List (Except Failure Json)) (u : Noted W E) : Noted W E := match seen.getLast? with
      | some item => act seen (l.tellItem context item u)
      | none => act seen (told u)
    have hact' : ∀ seen u, (act' seen u).notes = u.notes := by
      intro seen u
      simp only [act']
      split
      · exact (hact _ _).trans (hitem _ _)
      · exact (hact _ _).trans (hl _ _)
    refine ⟨l.watchRequest context request, act', _, hact', hstarted, ?_⟩
    have htapped : (l.watchResponse context r).body = fun u => (u, items.tap (l.tellItem context)) := by
      simp only [watchResponse, hbody]
    have hread := Step.readBy_tap (l.tellItem context) act act'
      (fun seen x u => by simp only [act', List.getLast?_concat]) (items (act' [] v₂)) []
    have hserve : (l.watchResponse context r).serve (.toEnd act) (told v₂) = r.serve (.toEnd act') v₂ := by
      rw [Response.serve_toEnd htapped, Response.serve_toEnd hbody, ← hread]
      rfl
    rw [l.watched_of_ok hstart hx, Exchange.call_of_ok hx, hserve]
    exact ⟨rfl, rfl⟩
  · refine ⟨l.watchRequest context request, act, _, hact, hstarted, ?_⟩
    rw [l.watched_of_never hstart hx, Exchange.call_of_never hx]
    exact ⟨rfl, rfl⟩

end Listener
end Courier
