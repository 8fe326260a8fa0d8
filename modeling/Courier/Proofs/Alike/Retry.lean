import Courier.Proofs.Alike.Basic
import Courier.Proofs.Retry.Call

/-! Retries of calls that are alike.

    A conversation with a policy may hold steps on one side that change nothing of what agrees. Attempts
    that are alike and policies that say the same make exchanges that are alike (`exchange_alike`). -/

namespace Courier

variable {V W : Type} (agree : V → W → Prop)

/-- Listeners whose notices keep what agrees. -/
def Listener.Alike [Ambient V] [Ambient W] (l : Listener V) (l' : Listener W) : Prop :=
  ∀ methodKey retry e, Keeps agree (l.notify (.retryAttempt methodKey retry e))
    (l'.notify (.retryAttempt methodKey retry e))

namespace Retry

/-- The same waits and answers; the first side may do more that keeps what agrees. -/
inductive Session.Alike : Session V → Session W → Prop where
  | closed : Alike .closed .closed
  | await {next next'} (h : ∀ e, Alike (next e) (next' e)) : Alike (.await next) (.await next')
  | perform {effect effect' rest rest'} (heffect : Keeps agree effect effect')
    (h : ∀ v w, agree v w → Alike (rest v) (rest' w)) : Alike (.perform effect rest) (.perform effect' rest')
  | answer {verdict rest rest'} (h : Alike rest rest') : Alike (.answer verdict rest) (.answer verdict rest')
  | aside {effect rest s} (heffect : Keeps agree effect id) (h : ∀ v, Alike (rest v) s) :
    Alike (.perform effect rest) s

/-- Policies that say the same. -/
def Policy.Alike (p : Policy V) (p' : Policy W) : Prop := ∀ v w, agree v w →
  agree (p.opening v).1 (p'.opening w).1 ∧ Session.Alike agree (p.opening v).2 (p'.opening w).2

/-- The same start of a body, and rests that are alike. -/
structure Primed.Alike (p : Primed V) (p' : Primed W) : Prop where
  status : p.status = p'.status
  headers : p.headers = p'.headers
  first : p.first = p'.first
  rest : p.rest.Alike agree p'.rest

/-- The same failure, no answer ever, or bodies that start alike. -/
inductive PrimedAlike : V × Eventual Failure (Primed V) → W × Eventual Failure (Primed W) → Prop where
  | refused {v w} (e : Failure) (h : agree v w) : PrimedAlike (v, .error e) (w, .error e)
  | never {v w} (h : agree v w) : PrimedAlike (v, .never) (w, .never)
  | primed {v w p p'} (h : agree v w) (hp : Primed.Alike agree p p') : PrimedAlike (v, .ok p) (w, .ok p')

/-- The same failure, no answer ever, or bodies that start alike and go on alike after a failure. -/
def Outcome.Alike : Outcome V → Outcome W → Prop
  | .failed v e, .failed w e' => agree v w ∧ e = e'
  | .never v, .never w => agree v w
  | .primed v p resume, .primed w p' resume' => agree v w ∧ p.Alike agree p' ∧
    ∀ e v' w', agree v' w' → Alike (resume e v') (resume' e w')
  | _, _ => False

variable (same : Request V → Request W → Prop)

/-- Attempts of the same call, with parts that are alike. -/
structure Attempts.Alike [Ambient V] [Ambient W] (a : Attempts V) (a' : Attempts W) : Prop where
  methodKey : a.methodKey = a'.methodKey
  listener : a.listener.Alike agree a'.listener
  inner : a.inner.Alike agree same a'.inner
  request : same a.request a'.request

variable {agree same}

/-- An attempt fails in the same way, or its body starts alike. -/
theorem prime_alike {inner : Exchange V} {inner' : Exchange W} (h : inner.Alike agree same inner')
    {request : Request V} {request' : Request W} (hrequest : same request request') {v : V} {w : W}
    (hv : agree v w) : PrimedAlike agree (prime inner request v) (prime inner' request' w) := by
  have hresult := h request request' hrequest v w hv
  rw [prime, prime]
  generalize inner.execute request v = result at hresult
  generalize inner'.execute request' w = result' at hresult
  cases hresult with
  | refused e h => exact .refused e h
  | never h => exact .never h
  | arrived h hr =>
    next v w r r' =>
    obtain ⟨hbody, hitems⟩ := hr.body v w h
    have hfirst := hitems _ _ hbody
    simp only
    generalize (r.body v).2 (r.body v).1 = step at hfirst
    generalize (r'.body w).2 (r'.body w).1 = step' at hfirst
    cases step with
    | done v₁ =>
      cases step' with
      | done w₁ => exact .primed hfirst ⟨hr.status, hr.headers, rfl, fun _ _ h => h⟩
      | _ => exact hfirst.elim
    | item v₁ item more =>
      cases step' with
      | item w₁ item' more' =>
        obtain ⟨hitem, rfl, hmore⟩ := hfirst
        cases item with
        | error e => exact .refused e hitem
        | ok j => exact .primed hitem ⟨hr.status, hr.headers, rfl, hmore⟩
      | _ => exact hfirst.elim
    | never v₁ =>
      cases step' with
      | never w₁ => exact .never hfirst
      | _ => exact hfirst.elim

variable [Ambient V] [Ambient W] {a : Attempts V} {a' : Attempts W}

theorem report_keeps (heffects : EffectsAlike agree) (ha : a.Alike agree same a') (n : Nat) (e : Failure) :
    Keeps agree (report a n e) (report a' n e) := by
  intro v w hv
  rw [report, report, ha.methodKey]
  exact heffects.record _ _ _ v w hv

/-- An attempt that is due, and what follows its failure. -/
theorem due_alike (ha : a.Alike agree same a') {ask : Failure → V → Outcome V}
    {ask' : Failure → W → Outcome W}
    (hask : ∀ e v w, agree v w → (ask e v).Alike agree (ask' e w)) {v : V} {w : W} (hv : agree v w) :
    Outcome.Alike agree
      (match prime a.inner a.request v with
        | (v, .ok response) => .primed v response ask
        | (v, .error e) => ask e v
        | (v, .never) => .never v)
      (match prime a'.inner a'.request w with
        | (w, .ok response) => .primed w response ask'
        | (w, .error e) => ask' e w
        | (w, .never) => .never w) := by
  have hresult := prime_alike ha.inner ha.request hv
  generalize prime a.inner a.request v = start at hresult
  generalize prime a'.inner a'.request w = start' at hresult
  cases hresult with
  | refused e h => exact hask e _ _ h
  | never h => exact h
  | primed h hp => exact ⟨h, hp, hask⟩

/-- Conversations that are alike lead to outcomes that are. -/
theorem converse_alike (heffects : EffectsAlike agree) (ha : a.Alike agree same a') {s : Session V}
    {s' : Session W} (hs : s.Alike agree s') : ∀ (queue : List Failure) (last : Failure) (n : Nat) {v : V}
    {w : W}, agree v w → (converse a s queue last n v).Alike agree (converse a' s' queue last n w) := by
  induction hs with
  | closed => exact fun _ _ _ _ _ hv => ⟨hv, rfl⟩
  | await _ ih =>
    intro queue last n v w hv
    cases queue with
    | nil => exact hv
    | cons e queue => exact ih e queue last n hv
  | perform heffect _ ih =>
    intro queue last n v w hv
    exact ih _ _ (heffect v w hv) queue last n (heffect v w hv)
  | answer _ ih =>
    next verdict rest rest' _ =>
    intro queue last n v w hv
    match verdict with
    | .error e => exact ⟨hv, rfl⟩
    | .ok () =>
      have htold : agree (a.listener.notify (.retryAttempt a.methodKey (n + 1) last) v)
          (a'.listener.notify (.retryAttempt a'.methodKey (n + 1) last) w) := by
        rw [ha.methodKey]
        exact ha.listener _ _ _ v w hv
      rw [converse, converse]
      have hask : ∀ e v w, agree v w →
          (converse a rest (queue ++ [e]) e (n + 1) (report a (n + 1) e v)).Alike agree
            (converse a' rest' (queue ++ [e]) e (n + 1) (report a' (n + 1) e w)) :=
        fun e v w h => ih _ _ _ (report_keeps heffects ha _ e v w h)
      exact due_alike ha hask htold
  -- the right side waits while the left one acts
  | aside heffect _ ih =>
    intro queue last n v w hv
    exact ih _ queue last n (heffect v w hv)

/-- Calls that are alike have outcomes that are. -/
theorem run_alike (heffects : EffectsAlike agree) (ha : a.Alike agree same a') {p : Policy V}
    {p' : Policy W} (hp : p.Alike agree p') {v : V} {w : W} (hv : agree v w) :
    (run a p v).Alike agree (run a' p' w) := by
  obtain ⟨hopened, hsession⟩ := hp v w hv
  rw [run, run]
  generalize p.opening v = start at hopened hsession
  generalize p'.opening w = start' at hopened hsession
  obtain ⟨v₁, session⟩ := start
  obtain ⟨w₁, session'⟩ := start'
  have hask : ∀ e v w, agree v w → (converse a session [e] e 0 (report a 0 e v)).Alike agree
      (converse a' session' [e] e 0 (report a' 0 e w)) :=
    fun e v w h => converse_alike heffects ha hsession _ _ _ (report_keeps heffects ha _ e v w h)
  exact due_alike ha hask hopened

/-- A basic policy says the same in all surroundings that agree. -/
theorem BasicPolicy.converse_alike (heffects : EffectsAlike agree) (p : BasicPolicy) :
    ∀ left retry : Nat, Session.Alike agree (p.converse (W := V) left retry) (p.converse (W := W) left retry)
  | 0, _ => .await fun _ => .answer .closed
  | left + 1, retry => by
    refine .await fun e => ?_
    have hwait : Keeps agree (wait (p.delay e retry)) (wait (p.delay e retry)) := by
      intro v w hv
      rw [wait, wait]
      split
      · exact hv
      · exact heffects.pause _ v w hv
    cases p.accepts e with
    | true => exact .perform hwait fun _ _ _ => .answer (converse_alike heffects p left (retry + 1))
    | false => exact .answer .closed

theorem BasicPolicy.toPolicy_alike (heffects : EffectsAlike agree) (p : BasicPolicy) :
    (p.toPolicy (W := V)).Alike agree (p.toPolicy (W := W)) :=
  fun _ _ hv => ⟨hv, p.converse_alike heffects p.maxRetries 1⟩

/-! ### Bodies -/

omit [Ambient V] [Ambient W]

theorem splice_alike {resume : Failure → V → Step V (Except Failure Json)}
    {resume' : Failure → W → Step W (Except Failure Json)}
    (hresume : ∀ e v w, agree v w → (resume e v).Alike agree (resume' e w)) :
    ∀ {s : Step V (Except Failure Json)} {t : Step W (Except Failure Json)}, s.Alike agree t →
      (splice resume s).Alike agree (splice resume' t)
  | .done _, .done _, h => h
  | .item v (.error e) _, .item w _ _, ⟨hv, rfl, _⟩ => hresume e v w hv
  | .item _ (.ok _) _, .item _ _ _, ⟨hv, rfl, hmore⟩ =>
    ⟨hv, rfl, fun v' w' h' => splice_alike hresume (hmore v' w' h')⟩
  | .never _, .never _, h => h

/-- Outcomes that are alike have the same elements. -/
theorem Outcome.Alike.elements : ∀ {o : Outcome V} {o' : Outcome W}, o.Alike agree o' →
    o.elements.Alike agree o'.elements
  | .failed _ _, .failed _ _, ⟨hv, rfl⟩ => ⟨hv, rfl, fun _ _ h => h⟩
  | .never _, .never _, hv => hv
  | .primed v p resume, .primed w p' resume', ⟨hv, hp, hresume⟩ => by
    have hresumed : ∀ e v w, agree v w → (resume e v).elements.Alike agree (resume' e w).elements :=
      fun e v w h => (hresume e v w h).elements
    have hsplice := fun v' w' h' => splice_alike hresumed (hp.rest v' w' h')
    rw [Outcome.elements, Outcome.elements, ← hp.first]
    cases p.first with
    | none => exact hsplice v w hv
    | some j => exact ⟨hv, rfl, hsplice⟩

theorem toResponse_alike (arity : Arity) {p : Primed V} {p' : Primed W}
    {resume : Failure → V → Outcome V} {resume' : Failure → W → Outcome W} (hp : p.Alike agree p')
    (hresume : ∀ e v w, agree v w → (resume e v).Alike agree (resume' e w)) :
    (toResponse arity p resume).Alike agree (toResponse arity p' resume') := by
  have hitems : (p.items arity resume).Alike agree (p'.items arity resume') := by
    cases arity with
    | mono =>
      rw [Primed.items, Primed.items, hp.first]
      exact ofList_alike _
    | flux => exact fun v w hv => Outcome.Alike.elements ⟨hv, hp, hresume⟩
  refine ⟨hp.status, hp.headers, fun v w hv => ⟨hv, hitems⟩, fun v w hv => ?_⟩
  obtain ⟨hagree, hsame⟩ := (hitems v w hv).collect
  rw [toResponse_data, toResponse_data]
  rcases hs : (p.items arity resume v).collect with ⟨v', e | js | _⟩ <;>
    rcases ht : (p'.items arity resume' w).collect with ⟨w', e' | js' | _⟩ <;>
    rw [hs, ht] at hagree hsame <;> cases hsame <;> exact ⟨hagree, rfl⟩

variable [Ambient V] [Ambient W]

/-- Exchanges with policies that say the same around exchanges that are alike. -/
theorem exchange_alike (heffects : EffectsAlike agree) {p : Policy V} {p' : Policy W}
    (hp : p.Alike agree p') {l : Listener V} {l' : Listener W} (hl : l.Alike agree l') (endpoint : Endpoint)
    {inner : Exchange V} {inner' : Exchange W} (hinner : inner.Alike agree same inner') :
    (exchange p l endpoint inner).Alike agree same (exchange p' l' endpoint inner') := by
  intro request request' hrequest v w hv
  have ha : Attempts.Alike agree same ⟨endpoint.key, l, inner, request⟩
      ⟨endpoint.key, l', inner', request'⟩ := ⟨rfl, hl, hinner, hrequest⟩
  have hrun := run_alike heffects ha hp hv
  rw [exchange_execute, exchange_execute]
  generalize run ⟨endpoint.key, l, inner, request⟩ p v = o at hrun
  generalize run ⟨endpoint.key, l', inner', request'⟩ p' w = o' at hrun
  match o, o', hrun with
  | .failed _ e, .failed _ _, ⟨hagree, rfl⟩ => exact .refused e hagree
  | .never _, .never _, hagree => exact .never hagree
  | .primed _ _ _, .primed _ _ _, ⟨hagree, hprimed, hresume⟩ =>
    exact .arrived hagree (toResponse_alike endpoint.arity hprimed hresume)

end Retry
end Courier
