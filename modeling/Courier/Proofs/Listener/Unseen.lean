import Courier.Proofs.Alike.Parts
import Courier.Proofs.Alike.Request

/-! Listeners that nobody sees.

    A listener may do what it likes where nobody looks, and may crash over any notice. So may the log.
    Then a call that is watched and the same call that nobody watches cannot be told apart, neither by
    those who take part in it nor by the caller (`pipeline_unseen`). -/

namespace Courier

variable {V W α : Type} (agree : V → W → Prop) [Ambient V] [Ambient W]

/-- What is written to the log, on either side, is not seen, nor are names that are given on the first;
    waiting and the calendar are alike. -/
structure EffectsUnseen : Prop where
  left : ∀ level part message, Keeps agree (Ambient.record level part message) id
  right : ∀ level part message, Keeps agree id (Ambient.record level part message)
  freshId : Keeps agree (fun v => (Ambient.freshId v).1) id
  pause : ∀ d, Keeps agree (Ambient.pause d) (Ambient.pause d)
  calendar : ∀ v w, agree v w → Ambient.calendar v = Ambient.calendar w

omit [Ambient V] in
/-- What the listener does over a notice is not seen; whether it crashes is up to it. -/
def Listener.Unseen (l : Listener V) : Prop := ∀ n, Keeps agree (fun v => (l.hear n v).1) id

variable {agree}

theorem EffectsUnseen.effects (h : EffectsUnseen agree) : EffectsAlike agree where
  record level part message v w hv := h.right level part message _ _ (h.left level part message v w hv)
  pause := h.pause
  calendar := h.calendar

omit [Ambient V] [Ambient W] in
/-- Hooks that nobody sees change nothing. -/
theorem Step.Alike.tap_unseen {f : α → V → V} (hf : ∀ x, Keeps agree (f x) id) :
    ∀ {s : Step V α} {t : Step W α}, s.Alike agree t → (s.tap f).Alike agree t
  | .done _, .done _, h => h
  | .item _ x _, .item _ _ _, ⟨hv, rfl, hmore⟩ =>
    ⟨hf x _ _ hv, rfl, fun v' w' h' => (hmore v' w' h').tap_unseen hf⟩
  | .never _, .never _, h => h

namespace Listener

variable {l : Listener V}

/-- A crash is written to the log. -/
theorem Unseen.notify (hambient : EffectsUnseen agree) (hl : l.Unseen agree) (n : Notice V) :
    Keeps agree (l.notify n) id := by
  intro v w hv
  have hheard := hl n v w hv
  rw [Listener.notify]
  rcases hhear : l.hear n v with ⟨v', _ | _⟩ <;> simp only [hhear] at hheard ⊢
  · exact hheard
  · exact hambient.left _ _ _ v' w hheard

omit [Ambient V] in
/-- The log of calls is not seen either. -/
theorem CallLog.notify_unseen (hrecord : ∀ level part message,
    Keeps agree id (Ambient.record level part message)) (c : CallLog) (n : Notice W) :
    Keeps agree id (c.listener.notify n) := by
  have hfold : ∀ (texts : List String) (tag : String) (v : V) (w : W), agree v w → agree v
      (texts.foldl (fun w t => Ambient.record c.logLevel "ReactiveLogger" ("[" ++ tag ++ "] " ++ t) w) w) := by
    intro texts
    induction texts with
    | nil => exact fun _ _ _ h => h
    | cons t texts ih => exact fun tag v w h => ih tag _ _ (hrecord _ _ _ v w h)
  exact fun v w hv => hfold _ _ v w hv

/-- Whoever is told of retries, nobody sees it. -/
theorem Unseen.retried (hambient : EffectsUnseen agree) (hl : l.Unseen agree) (c : CallLog) :
    l.Alike agree (c.listener (W := W)) := by
  intro methodKey retry e v w hv
  exact c.notify_unseen hambient.right _ _ _ (hl.notify hambient _ v w hv)

theorem Unseen.watchRequest (hambient : EffectsUnseen agree) (hl : l.Unseen agree) (call : CallContext)
    {r : Request V} {r' : Request W} (h : r.Alike agree r') : (l.watchRequest call r).Alike agree r' := by
  have hhooked : ∀ b b', Body.Alike agree b b' →
      (b.tapFirst fun chunk => l.notify (.requestBody call chunk)).Alike agree (id b') :=
    fun b b' hb => ⟨hb.items, hb.taps.concat fun chunk => hl.notify hambient (.requestBody call chunk)⟩
  have hmapped := h.mapBody hhooked
  rw [Option.map_id_fun] at hmapped
  exact hmapped

theorem Unseen.watchResponse (hambient : EffectsUnseen agree) (hl : l.Unseen agree) (call : CallContext)
    {r : Response V} {r' : Response W} (h : r.Alike agree r') : (l.watchResponse call r).Alike agree r' := by
  have hitem : ∀ item, Keeps agree (l.tellItem call item) id := by
    intro item v w hv
    cases item <;> exact hl.notify hambient _ v w hv
  refine ⟨h.status, h.headers, fun v w hv => ?_, h.data⟩
  obtain ⟨hbody, hitems⟩ := h.body v w hv
  exact ⟨hbody, fun v w hv => (hitems v w hv).tap_unseen hitem⟩

/-- An exchange that is watched is like one that is not. -/
theorem Unseen.exchange (hambient : EffectsUnseen agree) (hl : l.Unseen agree) (methodKey : String)
    {x : Exchange V} {x' : Exchange W} (hx : x.Alike agree (Request.Alike agree) x') :
    (l.exchange methodKey x).Alike agree (Request.Alike agree) x' := by
  intro request request' hrequest v w hv
  rw [exchange_execute]
  have hstarted : agree (CallContext.start methodKey request v).1 w := hambient.freshId v w hv
  generalize CallContext.start methodKey request v = start at hstarted ⊢
  obtain ⟨v₁, call⟩ := start
  have htold := hl.notify hambient (.requestStarted call request) v₁ w hstarted
  have hresult := hx _ _ (hl.watchRequest hambient call hrequest) _ _ htold
  simp only
  generalize x.execute (l.watchRequest call request) (l.notify (.requestStarted call request) v₁) = result
    at hresult ⊢
  change ResultsAlike agree result (x'.execute request' w) at hresult
  generalize x'.execute request' w = result' at hresult ⊢
  cases hresult with
  | refused e h => exact .refused e (hl.notify hambient _ _ _ h)
  | never h => exact .never h
  | arrived h hr => exact .arrived (hl.notify hambient _ _ _ h) (hl.watchResponse hambient call hr)

end Listener

namespace Blueprint

variable {wire : Wire V} {wire' : Wire W} (b : Blueprint V) (b' : Blueprint W)

/-- A client whose listener nobody sees is like the client without it. -/
theorem pipeline_unseen (hambient : EffectsUnseen agree)
    (hb : Blueprint.Alike agree (Request.Alike agree) wire wire' { b with listener := none }
      { b' with listener := none })
    (hl : ∀ l ∈ b.listener, l.Unseen agree) : (b.pipeline wire).Alike agree (Request.Alike agree)
      (Blueprint.pipeline wire' { b' with listener := none }) := by
  have hattempt := hb.attempt hambient.effects
  change (b.attempt wire).Alike agree (Request.Alike agree) (b'.attempt wire') at hattempt
  have hpolicy : Option.Rel (Retry.Policy.Alike agree) b.policy b'.policy := hb.policy
  have hretried := fun {l : Listener V} (hl : l.Alike agree (Listener.CallLog.brief.listener (W := W))) =>
    retried_alike hambient.effects hl hb.endpoint hattempt hpolicy
  rw [pipeline, pipeline]
  cases h : b.listener with
  -- without a listener, both tell their retries to the log
  | none => exact hretried fun _ _ _ => Listener.CallLog.notify_keeps hambient.effects _ rfl
  | some l => exact (hl l h).exchange hambient b.endpoint.key (hretried ((hl l h).retried hambient _))

end Blueprint
end Courier
