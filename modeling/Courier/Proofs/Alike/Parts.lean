import Courier.Client
import Courier.Proofs.Alike.Retry
import Mathlib.Data.List.Forall2

/-! Parts of clients that are alike.

    Interceptors that are alike make the same requests, status rules and mappers that are alike make
    responses that are alike, and clients whose parts are alike are alike. -/

namespace Courier

variable {V W α : Type} (agree : V → W → Prop) (same : Request V → Request W → Prop)

/-- Interceptors that change the same request in the same way. -/
structure Interceptor.Alike (i : Interceptor V) (i' : Interceptor W) : Prop where
  name : i.name = i'.name
  apply : ∀ r r', same r r' → ∀ v w, agree v w →
    agree (i.apply r v).1 (i'.apply r' w).1 ∧ same (i.apply r v).2 (i'.apply r' w).2

/-- Rules that decode the same failures. -/
structure Status.Rule.Alike (rule : Rule V) (rule' : Rule W) : Prop where
  name : rule.name = rule'.name
  claims : rule.claims = rule'.claims
  decode : ∀ key r r', Response.Alike agree r r' → ∀ v w, agree v w →
    agree (rule.decode key r v).1 (rule'.decode key r' w).1 ∧
      (rule.decode key r v).2 = (rule'.decode key r' w).2

/-- Mappers that change responses that are alike into such. -/
structure Mapper.Alike (m : Mapper V) (m' : Mapper W) : Prop where
  name : m.name = m'.name
  map : ∀ r r', Response.Alike agree r r' → (m.map r).Alike agree (m'.map r')

/-- Watching the same calls keeps what agrees, and requests the same. -/
structure Listener.WatchAlike [Ambient V] [Ambient W] (l : Listener V) (l' : Listener W) : Prop where
  retried : l.Alike agree l'
  requested : ∀ call r r', same r r' →
    Keeps agree (l.notify (.requestStarted call r)) (l'.notify (.requestStarted call r'))
  hooked : ∀ call r r', same r r' → same (l.watchRequest call r) (l'.watchRequest call r')
  answered : ∀ call status headers elapsed, Keeps agree
    (l.notify (.responseReceived call status headers elapsed))
    (l'.notify (.responseReceived call status headers elapsed))
  element : ∀ call j elapsed, Keeps agree (l.notify (.bodyElement call j elapsed))
    (l'.notify (.bodyElement call j elapsed))
  failed : ∀ call e elapsed, Keeps agree (l.notify (.errorReceived call e elapsed))
    (l'.notify (.errorReceived call e elapsed))

variable {agree same} [Ambient V] [Ambient W]

/-! ### Interceptors -/

theorem Interceptor.applyAll_alike (heffects : EffectsAlike agree) {is : List (Interceptor V)}
    {is' : List (Interceptor W)} (his : List.Forall₂ (Interceptor.Alike agree same) is is') :
    ∀ {r : Request V} {r' : Request W}, same r r' → ∀ {v w}, agree v w →
      agree (applyAll is r v).1 (applyAll is' r' w).1 ∧ same (applyAll is r v).2 (applyAll is' r' w).2 := by
  induction his with
  | nil => exact fun hr _ _ hv => ⟨hv, hr⟩
  | cons hi _ ih =>
    next i i' _ _ _ =>
    intro r r' hr v w hv
    have hlogged := heffects.record .trace "Interceptor" ("applying '" ++ i.name ++ "'") v w hv
    obtain ⟨hagree, hchanged⟩ := hi.apply r r' hr _ _ hlogged
    rw [applyAll, applyAll, ← hi.name]
    exact ih hchanged hagree

/-! ### Status rules -/

namespace Status

omit [Ambient V] [Ambient W] in
theorem Rule.firstOf_alike {rules : List (Rule V)} {rules' : List (Rule W)}
    (h : List.Forall₂ (Rule.Alike agree) rules rules') : (Rule.firstOf rules).Alike agree (.firstOf rules') := by
  have hselect : ∀ status, Option.Rel (Rule.Alike agree) (Rule.select rules status)
      (Rule.select rules' status) := by
    intro status
    induction h with
    | nil => exact .none
    | cons hrule _ ih =>
      next rule rule' _ _ _ =>
      simp only [Rule.select, List.find?_cons, ← hrule.claims] at ih ⊢
      cases rule.claims status with
      | true => exact .some hrule
      | false => exact ih
  refine ⟨rfl, funext fun status => ?_, fun key r r' hr v w hv => ?_⟩
  · have hstatus := hselect status
    simp only [Rule.firstOf]
    cases h : Rule.select rules status <;> cases h' : Rule.select rules' status <;>
      rw [h, h'] at hstatus <;> cases hstatus <;> rfl
  · have hstatus := hselect r.status
    simp only [Rule.firstOf, ← hr.status]
    cases h : Rule.select rules r.status <;> cases h' : Rule.select rules' r.status <;>
      rw [h, h'] at hstatus <;> cases hstatus
    · exact ⟨hv, rfl⟩
    · next hrule => exact hrule.decode key r r' hr v w hv

theorem Rule.standard_alike (heffects : EffectsAlike agree) :
    (Rule.standard (W := V)).Alike agree (Rule.standard (W := W)) := by
  refine ⟨rfl, rfl, fun key r r' hr v w hv => ?_⟩
  obtain ⟨hdata, hbytes⟩ := hr.data v w hv
  simp only [Rule.standard, Rule.ofDecoder, ← hr.status, ← hr.headers]
  rcases h : r.data v with ⟨v', e | bytes | _⟩ <;> rcases h' : r'.data w with ⟨w', e' | bytes' | _⟩ <;>
    rw [h, h'] at hdata hbytes <;> cases hbytes
  · exact ⟨hdata, rfl⟩
  · have hcalendar : Ambient.calendar v' = Ambient.calendar w' := heffects.calendar _ _ hdata
    exact ⟨hdata, congrArg (fun now => some (standardFailure key r.status r.headers bytes now)) hcalendar⟩
  · exact ⟨hdata, rfl⟩

omit [Ambient W] in
theorem make_fail {α : Type} (rule : Rule W) (key : String) (r : Response W) (w : W) :
    (Faulted.make rule key r).fail (α := α) w
      = ((rule.decode key r w).1, (rule.decode key r w).2.elim .never .error) := by
  rw [Faulted.fail, Faulted.make, Deferred.force]
  rcases rule.decode key r w with ⟨w', _ | e⟩ <;> rfl

omit [Ambient V] [Ambient W] in
/-- The failure in place of a body is the same whoever asks for it. -/
theorem faulted_alike {rule : Rule V} {rule' : Rule W} (hrule : rule.Alike agree rule') (key : String)
    {r : Response V} {r' : Response W} (hr : r.Alike agree r') :
    (Faulted.make rule key r).toResponse.Alike agree (Faulted.make rule' key r').toResponse := by
  have hfail : ∀ (α : Type) (v : V) (w : W), agree v w →
      agree ((Faulted.make rule key r).fail (α := α) v).1 ((Faulted.make rule' key r').fail (α := α) w).1 ∧
        ((Faulted.make rule key r).fail (α := α) v).2 = ((Faulted.make rule' key r').fail (α := α) w).2 := by
    intro α v w hv
    obtain ⟨hagree, hsame⟩ := hrule.decode key r r' hr v w hv
    rw [make_fail, make_fail, hsame]
    exact ⟨hagree, rfl⟩
  exact ⟨hr.status, hr.headers, fun v w hv => ⟨hv, once_alike (hfail Json)⟩, hfail Bytes⟩

theorem handle_alike (heffects : EffectsAlike agree) {rule : Rule V} {rule' : Rule W}
    (hrule : rule.Alike agree rule') (key : String) {r : Response V} {r' : Response W}
    (hr : r.Alike agree r') {v : V} {w : W} (hv : agree v w) :
    agree (handle rule key r v).1 (handle rule' key r' w).1 ∧
      (handle rule key r v).2.Alike agree (handle rule' key r' w).2 := by
  rw [handle, handle, ← hrule.claims, ← hr.status, ← hrule.name]
  cases rule.claims r.status with
  | true => exact ⟨heffects.record _ _ _ v w hv, faulted_alike hrule key hr⟩
  | false => exact ⟨hv, hr⟩

theorem exchange_execute (rule : Rule W) (key : String) (inner : Exchange W) (request : Request W)
    (w : W) : (exchange rule key inner).execute request w = match inner.execute request w with
      | (w, .error e) => (w, .error e)
      | (w, .never) => (w, .never)
      | (w, .ok r) => match handle rule key r w with
        | (w, r) => (w, .ok r) := rfl

end Status

/-! ### Mappers -/

namespace Mapper

omit [Ambient V] [Ambient W] in
theorem ignore404_alike : (ignore404 (W := V)).Alike agree (ignore404 (W := W)) := by
  refine ⟨rfl, fun r r' h => ?_⟩
  simp only [ignore404, h.status]
  split
  · exact ⟨rfl, h.headers, fun _ _ hv => ⟨hv, fun _ _ hv => hv⟩, fun _ _ hv => ⟨hv, rfl⟩⟩
  · exact h

theorem apply_alike (heffects : EffectsAlike agree) {m : Mapper V} {m' : Mapper W}
    (hm : m.Alike agree m') {r : Response V} {r' : Response W} (hr : r.Alike agree r') {v : V} {w : W}
    (hv : agree v w) : agree (m.apply r v).1 (m'.apply r' w).1 ∧ (m.apply r v).2.Alike agree (m'.apply r' w).2 := by
  have hmapped := hm.map r r' hr
  rw [apply, apply, ← hmapped.status, ← hr.status, ← hm.name]
  split
  · exact ⟨hv, hmapped⟩
  · exact ⟨heffects.record _ _ _ v w hv, hmapped⟩

theorem applyAll_rel (heffects : EffectsAlike agree) {ms : List (Mapper V)} {ms' : List (Mapper W)}
    (hms : List.Forall₂ (Mapper.Alike agree) ms ms') : ∀ {r : Response V} {r' : Response W},
    r.Alike agree r' → ∀ {v w}, agree v w →
      agree (applyAll ms r v).1 (applyAll ms' r' w).1 ∧ (applyAll ms r v).2.Alike agree (applyAll ms' r' w).2 := by
  induction hms with
  | nil => exact fun hr _ _ hv => ⟨hv, hr⟩
  | cons hm _ ih =>
    intro r r' hr v w hv
    obtain ⟨hagree, hmapped⟩ := apply_alike heffects hm hr hv
    exact ih hmapped hagree

theorem exchange_execute (ms : List (Mapper W)) (inner : Exchange W) (request : Request W) (w : W) :
    (exchange ms inner).execute request w = match inner.execute request w with
      | (w, .error e) => (w, .error e)
      | (w, .never) => (w, .never)
      | (w, .ok r) => match applyAll ms r w with
        | (w, r) => (w, .ok r) := rfl

end Mapper

/-! ### Listeners -/

namespace Listener

theorem start_alike (hambient : AmbientAlike agree) (methodKey : String) {r : Request V} {r' : Request W}
    (hmethod : r.method = r'.method) (huri : r.uri = r'.uri) {v : V} {w : W} (hv : agree v w) :
    agree (CallContext.start methodKey r v).1 (CallContext.start methodKey r' w).1 ∧
      (CallContext.start methodKey r v).2 = (CallContext.start methodKey r' w).2 := by
  obtain ⟨hagree, hid⟩ := hambient.freshId v w hv
  simp only [CallContext.start, hid, hmethod, huri, hambient.elapsed _ _ hagree]
  exact ⟨hagree, trivial⟩

theorem elapsed_alike (hambient : AmbientAlike agree) (call : CallContext) {v : V} {w : W} (hv : agree v w) :
    call.elapsed v = call.elapsed w := by
  rw [CallContext.elapsed, CallContext.elapsed, hambient.elapsed v w hv]

theorem tellItem_keeps (hambient : AmbientAlike agree) {l : Listener V} {l' : Listener W}
    (hl : l.WatchAlike agree same l') (call : CallContext) :
    ∀ item, Keeps agree (l.tellItem call item) (l'.tellItem call item) := by
  intro item v w hv
  simp only [tellItem, elapsed_alike hambient call hv]
  cases item with
  | ok j => exact hl.element call j _ v w hv
  | error e => exact hl.failed call e _ v w hv

theorem exchange_execute (l : Listener W) (methodKey : String) (inner : Exchange W) (request : Request W)
    (w : W) : (l.exchange methodKey inner).execute request w = match CallContext.start methodKey request w with
      | (w, call) => match inner.execute (l.watchRequest call request)
          (l.notify (.requestStarted call request) w) with
        | (w, .ok response) =>
          (l.notify (.responseReceived call response.status response.headers (call.elapsed w)) w,
            .ok (l.watchResponse call response))
        | (w, .error e) => (l.notify (.errorReceived call e (call.elapsed w)) w, .error e)
        | (w, .never) => (w, .never) := rfl

/-- A call that is watched and fails. -/
theorem watched_of_error (l : Listener W) {methodKey : String} {inner : Exchange W} {request : Request W}
    {w v v' : W} {call : CallContext} {e : Failure} (hstart : CallContext.start methodKey request w = (v, call))
    (h : inner.execute (l.watchRequest call request) (l.notify (.requestStarted call request) v) = (v', .error e))
    (use : Use W) : (l.exchange methodKey inner).call request use w
      = (l.notify (.errorReceived call e (call.elapsed v')) v', .refused e) := by
  refine Exchange.call_of_error ?_ use
  rw [exchange_execute, hstart]
  simp only [h]

/-- A call that is watched and never ends. -/
theorem watched_of_never (l : Listener W) {methodKey : String} {inner : Exchange W} {request : Request W}
    {w v v' : W} {call : CallContext} (hstart : CallContext.start methodKey request w = (v, call))
    (h : inner.execute (l.watchRequest call request) (l.notify (.requestStarted call request) v) = (v', .never))
    (use : Use W) : (l.exchange methodKey inner).call request use w = (v', .waiting) := by
  refine Exchange.call_of_never ?_ use
  rw [exchange_execute, hstart]
  simp only [h]

/-- A call that is watched and answered. -/
theorem watched_of_ok (l : Listener W) {methodKey : String} {inner : Exchange W} {request : Request W}
    {w v v' : W} {call : CallContext} {r : Response W} (hstart : CallContext.start methodKey request w = (v, call))
    (h : inner.execute (l.watchRequest call request) (l.notify (.requestStarted call request) v) = (v', .ok r))
    (use : Use W) :
    let answered := l.notify (.responseReceived call r.status r.headers (call.elapsed v')) v'
    (l.exchange methodKey inner).call request use w = (((l.watchResponse call r).serve use answered).1,
      .response r.status r.headers ((l.watchResponse call r).serve use answered).2) := by
  refine Exchange.call_of_ok (r := l.watchResponse call r) ?_ use
  rw [exchange_execute, hstart]
  simp only [h]

theorem exchange_alike (hambient : AmbientAlike agree)
    (hsame : ∀ r r', same r r' → r.method = r'.method ∧ r.uri = r'.uri) {l : Listener V} {l' : Listener W}
    (hl : l.WatchAlike agree same l') (methodKey : String) {x : Exchange V} {x' : Exchange W}
    (hx : x.Alike agree same x') : (l.exchange methodKey x).Alike agree same (l'.exchange methodKey x') := by
  intro request request' hrequest v w hv
  obtain ⟨hmethod, huri⟩ := hsame request request' hrequest
  obtain ⟨hstarted, hcall⟩ := start_alike hambient methodKey hmethod huri hv
  rw [exchange_execute, exchange_execute]
  generalize CallContext.start methodKey request v = start at hstarted hcall
  generalize CallContext.start methodKey request' w = start' at hstarted hcall
  obtain ⟨v₁, call⟩ := start
  obtain ⟨w₁, call'⟩ := start'
  cases hcall
  have htold := hl.requested call request request' hrequest v₁ w₁ hstarted
  have hresult := hx _ _ (hl.hooked call request request' hrequest) _ _ htold
  simp only
  generalize x.execute (l.watchRequest call request) (l.notify (.requestStarted call request) v₁) = result
    at hresult
  generalize x'.execute (l'.watchRequest call request') (l'.notify (.requestStarted call request') w₁) = result'
    at hresult
  cases hresult with
  | refused e h =>
    next v₂ w₂ =>
    simp only [elapsed_alike hambient call h]
    exact .refused e (hl.failed call e _ v₂ w₂ h)
  | never h => exact .never h
  | arrived h hr =>
    next v₂ w₂ r r' =>
    have hitem := tellItem_keeps hambient hl call
    simp only [elapsed_alike hambient call h, ← hr.status, ← hr.headers]
    refine .arrived (hl.answered call _ _ _ v₂ w₂ h) ⟨hr.status, hr.headers, fun v w hv => ?_, hr.data⟩
    obtain ⟨hbody, hitems⟩ := hr.body v w hv
    exact ⟨hbody, hitems.tap hitem⟩

theorem CallLog.notify_keeps (heffects : EffectsAlike agree) (c : CallLog) {n : Notice V} {n' : Notice W}
    (h : c.lines n = c.lines n') : Keeps agree (c.listener.notify n) (c.listener.notify n') := by
  have hfold : ∀ (texts : List String) (tag : String) (v : V) (w : W), agree v w →
      agree (texts.foldl (fun v t => Ambient.record c.logLevel "ReactiveLogger" ("[" ++ tag ++ "] " ++ t) v) v)
        (texts.foldl (fun w t => Ambient.record c.logLevel "ReactiveLogger" ("[" ++ tag ++ "] " ++ t) w) w) := by
    intro texts
    induction texts with
    | nil => exact fun _ _ _ h => h
    | cons t texts ih => exact fun tag v w h => ih tag _ _ (heffects.record _ _ _ v w h)
  intro v w hv
  have hnotify : ∀ {U : Type} [Ambient U] (n : Notice U) (u : U), c.listener.notify n u
      = (c.lines n).2.foldl (fun u t => Ambient.record c.logLevel "ReactiveLogger"
        ("[" ++ (c.lines n).1 ++ "] " ++ t) u) u := fun _ _ => rfl
  rw [hnotify, hnotify, ← h]
  exact hfold _ _ v w hv

end Listener

/-! ### Clients -/

namespace Blueprint

variable (wire : Wire W) (b : Blueprint W)

/-- What interceptors make of a request is sent, also if there are none. -/
theorem sent_execute (request : Request W) (w : W) : (b.sent wire).execute request w
    = (b.transport.getD (Transport.exchange wire ⟨none, true, none⟩ b.endpoint.arity)).execute
      (Interceptor.applyAll b.interceptors request w).2 (Interceptor.applyAll b.interceptors request w).1 := by
  rw [sent]
  cases b.interceptors <;> rfl

/-- Status rules and mappers change the response of an attempt, also if there are no mappers. -/
theorem attempt_execute (request : Request W) (w : W) : (b.attempt wire).execute request w
    = match (b.sent wire).execute request w with
      | (w, .error e) => (w, .error e)
      | (w, .never) => (w, .never)
      | (w, .ok r) => match Status.handle (.firstOf (b.rules ++ [.standard])) b.endpoint.key r w with
        | (w, r) => match Mapper.applyAll b.mappers r w with
          | (w, r) => (w, .ok r) := by
  have hexecute : (b.attempt wire).execute request w = (Mapper.exchange b.mappers (Status.exchange
      (.firstOf (b.rules ++ [.standard])) b.endpoint.key (b.sent wire))).execute request w := by
    have hnone : ∀ x : Exchange W, x.execute request w = (Mapper.exchange [] x).execute request w := by
      intro x
      rw [Mapper.exchange_execute]
      rcases x.execute request w with ⟨w', e | r | _⟩ <;> rfl
    rw [attempt]
    cases b.mappers with
    | nil => exact hnone _
    | cons m ms => rfl
  rw [hexecute, Mapper.exchange_execute, Status.exchange_execute]
  rcases (b.sent wire).execute request w with ⟨w', e | r | _⟩ <;> rfl

/-- What an attempt runs through, tried again if there is a policy, of which the listener is told. -/
def retried (l : Listener W) : Exchange W := match b.policy with
  | some p => Retry.exchange p l b.endpoint (b.attempt wire)
  | none => b.attempt wire

theorem pipeline_unwatched (h : b.listener = none) :
    b.pipeline wire = b.retried wire Listener.CallLog.brief.listener := by
  rw [pipeline, h]
  rfl

theorem pipeline_watched {l : Listener W} (h : b.listener = some l) :
    b.pipeline wire = l.exchange b.endpoint.key (b.retried wire l) := by
  rw [pipeline, h]
  rfl

end Blueprint

variable (agree same)

/-- Blueprints whose parts are alike. -/
structure Blueprint.Alike (wire : Wire V) (wire' : Wire W) (b : Blueprint V) (b' : Blueprint W) : Prop where
  endpoint : b.endpoint = b'.endpoint
  transport : (b.transport.getD (Transport.exchange wire ⟨none, true, none⟩ b.endpoint.arity)).Alike agree same
    (b'.transport.getD (Transport.exchange wire' ⟨none, true, none⟩ b'.endpoint.arity))
  interceptors : List.Forall₂ (Interceptor.Alike agree same) b.interceptors b'.interceptors
  rules : List.Forall₂ (Status.Rule.Alike agree) b.rules b'.rules
  mappers : ∀ r r', Response.Alike agree r r' → ∀ v w, agree v w →
    agree (Mapper.applyAll b.mappers r v).1 (Mapper.applyAll b'.mappers r' w).1 ∧
      (Mapper.applyAll b.mappers r v).2.Alike agree (Mapper.applyAll b'.mappers r' w).2
  policy : Option.Rel (Retry.Policy.Alike agree) b.policy b'.policy
  listener : Option.Rel (Listener.WatchAlike agree same) b.listener b'.listener

variable {agree same} {wire : Wire V} {wire' : Wire W} {b : Blueprint V} {b' : Blueprint W}

namespace Blueprint

theorem Alike.attempt (heffects : EffectsAlike agree) (h : b.Alike agree same wire wire' b') :
    (b.attempt wire).Alike agree same (b'.attempt wire') := by
  intro request request' hrequest v w hv
  obtain ⟨happlied, hchanged⟩ := Interceptor.applyAll_alike heffects h.interceptors hrequest hv
  have hresult := h.transport _ _ hchanged _ _ happlied
  have hrule : (Status.Rule.firstOf (b.rules ++ [.standard])).Alike agree (.firstOf (b'.rules ++ [.standard])) :=
    Status.Rule.firstOf_alike (List.rel_append h.rules (.cons (Status.Rule.standard_alike heffects) .nil))
  rw [attempt_execute, attempt_execute, sent_execute, sent_execute, ← h.endpoint]
  rw [← h.endpoint] at hresult
  generalize (b.transport.getD _).execute _ _ = result at hresult
  generalize (b'.transport.getD _).execute _ _ = result' at hresult
  cases hresult with
  | refused e h => exact .refused e h
  | never h => exact .never h
  | arrived hsent hr =>
    obtain ⟨hhandled, hr₁⟩ := Status.handle_alike heffects hrule b.endpoint.key hr hsent
    obtain ⟨hmapped, hr₂⟩ := h.mappers _ _ hr₁ _ _ hhandled
    exact .arrived hmapped hr₂

/-- Exchanges that are alike, tried again under policies that are alike if there are such. -/
theorem retried_alike (heffects : EffectsAlike agree) {l : Listener V} {l' : Listener W}
    (hl : l.Alike agree l') {endpoint endpoint' : Endpoint} (hendpoint : endpoint = endpoint')
    {x : Exchange V} {x' : Exchange W} (hx : x.Alike agree same x') {p : Option (Retry.Policy V)} {p' : Option (Retry.Policy W)} :
    Option.Rel (Retry.Policy.Alike agree) p p' → Exchange.Alike agree same
      (match p with
        | some p => Retry.exchange p l endpoint x
        | none => x)
      (match p' with
        | some p' => Retry.exchange p' l' endpoint' x'
        | none => x') := by
  intro hp
  subst hendpoint
  cases hp with
  | some hp => exact Retry.exchange_alike heffects hp hl endpoint hx
  | none => exact hx

/-- Parts that are alike make clients that are alike. -/
theorem Alike.pipeline (hambient : AmbientAlike agree)
    (hsame : ∀ r r', same r r' → r.method = r'.method ∧ r.uri = r'.uri)
    (h : b.Alike agree same wire wire' b') : (b.pipeline wire).Alike agree same (b'.pipeline wire') := by
  have hattempt := h.attempt hambient.toEffectsAlike
  have hretried := fun {l : Listener V} {l' : Listener W} (hl : l.Alike agree l') =>
    retried_alike hambient.toEffectsAlike hl (Eq.refl b.endpoint) hattempt h.policy
  have hlistener := h.listener
  rw [Blueprint.pipeline, Blueprint.pipeline, ← h.endpoint]
  generalize b.listener = l at hlistener
  generalize b'.listener = l' at hlistener
  cases hlistener with
  | some hl => exact Listener.exchange_alike hambient hsame hl b.endpoint.key (hretried hl.retried)
  -- nobody watches the call, but retries are still told to the log
  | none => exact hretried fun _ _ _ => Listener.CallLog.notify_keeps hambient.toEffectsAlike _ rfl

end Blueprint
end Courier
