import Courier.Proofs.Interceptor.Chain
import Courier.Proofs.Listener.Aside
import Courier.Proofs.Listener.Traffic

/-! Attempts that run through chains.

    In a client each leaf notes the request it is given and the one it makes of it, and the transport notes
    the one it sends. Then the notes of a call are those of its attempts, one after the other. In each of them
    all leaves are applied, from left to right, and the first of them is given the request of the caller, not
    what an earlier attempt has made of it (`chains_compose`). -/

namespace Courier

variable {W : Type}

/-! ### Notes -/

namespace Interceptor

/-- What is written down about attempts: what a leaf, known by its number, makes of a request, and what is
    sent. -/
inductive Pass (W : Type) where
  | applied (leaf : Nat) (given made : Request W)
  | sent (request : Request W)

/-- An interceptor that notes what it makes of requests. -/
def watched (i : Interceptor W) (k : Nat) : Interceptor (Noted W (Pass W)) where
  name := i.name
  apply := fun r v => match i.apply r.plain v.world with
    | (w, r') => (⟨w, v.notes ++ [.applied k r.plain r']⟩, r'.noted)

/-- Interceptors that note what they make of requests, with numbers from `k` on. -/
def watchedFrom (k : Nat) (is : List (Interceptor W)) : List (Interceptor (Noted W (Pass W))) :=
  (is.zipIdx k).map fun p => p.1.watched p.2

mutual

/-- The tree with leaves that note what they make of requests, with numbers from `k` on. -/
def Tree.watched : Tree W → Nat → Tree (Noted W (Pass W))
  | .leaf i, k => .leaf (i.watched k)
  | .chain parts, k => .chain (parts.watched k)

/-- The parts with such leaves. -/
def Parts.watched : Parts W → Nat → Parts (Noted W (Pass W))
  | .none, _ => .none
  | .append parts part, k => .append (parts.watched k) (part.watched (k + parts.leaves.length))
  | .push parts part, k => .push (parts.watched k) (part.watched (k + parts.leaves.length))

end

theorem watchedFrom_append (k : Nat) (is js : List (Interceptor W)) :
    watchedFrom k (is ++ js) = watchedFrom k is ++ watchedFrom (k + is.length) js := by
  rw [watchedFrom, List.zipIdx_append, List.map_append]
  rfl

mutual

theorem Tree.leaves_watched : ∀ (t : Tree W) (k : Nat), (t.watched k).leaves = watchedFrom k t.leaves
  | .leaf _, _ => rfl
  | .chain parts, k => parts.leaves_watched k

theorem Parts.leaves_watched : ∀ (parts : Parts W) (k : Nat),
    (parts.watched k).leaves = watchedFrom k parts.leaves
  | .none, _ => rfl
  | .append parts part, k => by
    rw [Parts.watched, Parts.leaves, Parts.leaves, parts.leaves_watched, part.leaves_watched, watchedFrom_append]
  | .push parts part, k => by
    rw [Parts.watched, Parts.leaves, Parts.leaves, parts.leaves_watched, part.leaves_watched, watchedFrom_append]

end

/-- The notes of interceptors with numbers from `k` on, each applied once, in their order, to what the one
    before it has made. -/
inductive Traced : Nat → List (Interceptor W) → Request W → Request W → List (Pass W) → Prop
  | done {k r} : Traced k [] r r []
  | applied {k i is r w w₁ r₁ r' es} (hi : i.apply r w = (w₁, r₁)) (h : Traced (k + 1) is r₁ r' es) :
    Traced k (i :: is) r r' (.applied k r r₁ :: es)

/-- The notes of one attempt: the interceptors make another request of the first one, and that is sent. -/
def Passage (is : List (Interceptor W)) (first : Request W) (es : List (Pass W)) : Prop :=
  ∃ last earlier, Traced 0 is first last earlier ∧ es = earlier ++ [.sent last]

variable [Ambient W]

/-- Whoever goes through interceptors with notes has the notes of all of them. -/
theorem Through.traced {is : List (Interceptor (Noted W (Pass W)))} {r r' : Request (Noted W (Pass W))}
    {v v' : Noted W (Pass W)} (h : Through is r v r' v') : ∀ {k : Nat} {js : List (Interceptor W)},
      is = watchedFrom k js → ∃ es, v'.notes = v.notes ++ es ∧ Traced k js r.plain r'.plain es := by
  induction h with
  | done =>
    rintro k js hjs
    obtain rfl : js = [] := by simpa [watchedFrom] using hjs
    exact ⟨[], (List.append_nil _).symm, .done⟩
  | named name _ ih => exact ih
  | @applied i is r v r₁ v₁ r' v' hi _ ih =>
    rintro k js hjs
    cases js with
    | nil => cases hjs
    | cons j js =>
      obtain ⟨rfl, rfl⟩ := List.cons.inj hjs
      rcases hj : j.apply r.plain v.world with ⟨w, made⟩
      have hmade : (⟨w, v.notes ++ [.applied k r.plain made]⟩, made.noted) = (v₁, r₁) := by
        simpa only [watched, hj] using hi
      obtain ⟨rfl, rfl⟩ := Prod.mk.inj hmade
      obtain ⟨es, hnotes, htraced⟩ := ih rfl
      rw [Request.plain_noted] at htraced
      exact ⟨_, by rw [hnotes, List.append_assoc]; rfl, .applied hj htraced⟩

/-! ### Notes change nothing -/

omit [Ambient W] in
theorem watched_alike (i : Interceptor W) (k : Nat) : (i.watched k).Alike Noted.Over Request.Over i where
  name := rfl
  apply r r' hr v w hv := by
    cases hr
    cases hv
    exact ⟨rfl, Request.plain_noted _⟩

mutual

theorem Tree.watched_alike : ∀ (t : Tree W) (k : Nat),
    (t.watched k).interceptor.Alike Noted.Over Request.Over t.interceptor
  | .leaf i, k => i.watched_alike k
  | .chain parts, k => ⟨rfl, fun _ _ hr _ _ hv =>
      applyAll_alike Noted.ambient_alike.toEffectsAlike (parts.watched_alike k) hr hv⟩

theorem Parts.watched_alike : ∀ (parts : Parts W) (k : Nat),
    List.Forall₂ (Alike Noted.Over Request.Over) (parts.watched k).interceptors parts.interceptors
  | .none, _ => .nil
  | .append parts part, k => List.rel_append (parts.watched_alike k) (.cons (part.watched_alike _) .nil)
  | .push parts part, k => List.rel_append (parts.watched_alike k) (.cons (part.watched_alike _) .nil)

end

end Interceptor

open Interceptor

/-- What a transport writes down. -/
def Scribe.sends : Scribe W (Pass W) := ⟨fun r => [.sent r], fun _ => [], fun _ _ => [], fun _ => [], [], []⟩

variable [Ambient W] (wire : Wire W) (wire' : Wire (Noted W (Pass W))) (b : Blueprint W) (parts : Parts W)

/-- The parts of a client with these interceptors, of which the leaves and the transport write notes. -/
def Blueprint.passed : Blueprint (Noted W (Pass W)) where
  endpoint := b.endpoint
  target := b.target
  transport := some <|
    (b.transport.getD (Transport.exchange wire ⟨none, true, none⟩ b.endpoint.arity)).noted .sends
  interceptors := (parts.watched 0).interceptors
  rules := b.rules.map Status.Rule.noted
  mappers := b.mappers.map Mapper.noted
  policy := b.policy.map Retry.Policy.silent
  listener := b.listener.map (Listener.noted fun _ => [])

theorem Blueprint.passed_alike : (b.passed wire parts).Alike Noted.Over Request.Over wire' wire
    { b with interceptors := parts.interceptors } where
  endpoint := rfl
  transport := Exchange.noted_alike .sends _
  interceptors := parts.watched_alike 0
  rules := List.forall₂_map_left_iff.mpr (List.forall₂_same.mpr fun rule _ => rule.noted_alike)
  mappers _ _ hr _ _ hv := Mapper.applyAll_rel Noted.ambient_alike.toEffectsAlike
    (List.forall₂_map_left_iff.mpr (List.forall₂_same.mpr fun m _ => m.noted_alike)) hr hv
  policy := by
    rw [passed]
    cases b.policy with
    | none => exact .none
    | some p => exact .some p.silent_alike
  listener := by
    rw [passed]
    cases b.listener with
    | none => exact .none
    | some l => exact .some (l.noted_alike fun _ => [])

/-! ### One attempt -/

namespace Blueprint

theorem sent_passed (request : Request (Noted W (Pass W))) (v : Noted W (Pass W)) :
    ∃ es, Passage parts.leaves request.plain es ∧
      (((b.passed wire parts).sent wire').execute request v).1.notes = v.notes ++ es ∧
      ∀ r, (((b.passed wire parts).sent wire').execute request v).2 = .ok r → r.Quiet := by
  have hthrough := (parts.watched 0).through request v
  obtain ⟨earlier, happlied, htraced⟩ := hthrough.traced (parts.leaves_watched 0)
  let made := (applyAll (parts.watched 0).interceptors request v).2
  have hmade : (applyAll (parts.watched 0).interceptors request v).1.notes ++ [.sent made.plain]
      = v.notes ++ (earlier ++ [.sent made.plain]) := by rw [happlied, List.append_assoc]
  refine ⟨_, ⟨_, earlier, htraced, rfl⟩, ?_⟩
  rcases hx : ((b.passed wire parts).sent wire').execute request v with ⟨v', e | r | _⟩
  · rw [sent_execute] at hx
    exact ⟨(Exchange.notes_of_error hx).trans hmade, nofun⟩
  · rw [sent_execute] at hx
    obtain ⟨hsent, r, rfl⟩ := Exchange.notes_of_ok hx
    refine ⟨hsent.trans hmade, fun r' hr' => ?_⟩
    cases hr'
    exact r.noted_quiet rfl rfl rfl
  · rw [sent_execute] at hx
    exact ⟨(Exchange.notes_of_never hx).trans hmade, nofun⟩

end Blueprint

/-- Each execution is one attempt, and whoever reads its response writes nothing. -/
def Exchange.PassesOnce (is : List (Interceptor W)) (x : Exchange (Noted W (Pass W))) : Prop :=
  ∀ request v, ∃ es, Passage is request.plain es ∧ (x.execute request v).1.notes = v.notes ++ es ∧
    ∀ r, (x.execute request v).2 = .ok r → r.Quiet

theorem Blueprint.attempt_passes : ((b.passed wire parts).attempt wire').PassesOnce parts.leaves := by
  intro request v
  obtain ⟨es, hpassage, hnotes, hresponse⟩ := b.sent_passed wire wire' parts request v
  have hrules : ∀ rule ∈ (b.passed wire parts).rules, rule.Within (fun _ => Noted.Silent) Noted.Silent := by
    intro rule hrule
    obtain ⟨rule, -, rfl⟩ := List.mem_map.mp hrule
    exact Status.Rule.quiet_iff.mp rule.noted_quiet
  have hmappers : ∀ m ∈ (b.passed wire parts).mappers, m.Within (fun _ => Noted.Silent) Noted.Silent := by
    intro m hm
    obtain ⟨m, -, rfl⟩ := List.mem_map.mp hm
    exact m.noted_within
  obtain ⟨hchecked, hlast⟩ := attempt_of_sent Noted.silent_changes Noted.ambient_silent (fun _ _ _ h => h) wire'
    hrules hmappers fun r hr => Response.quiet_iff.mp (hresponse r hr)
  exact ⟨es, hpassage, hchecked.trans hnotes, fun r hr => Response.quiet_iff.mpr (hlast r hr)⟩

/-! ### Several attempts -/

/-- What has been written down since are the notes of `k` attempts that start with this request, or of more
    if there may be more. -/
def Makes (is : List (Interceptor W)) (first : Request W) (again : Prop) (k : Nat) (v v' : Noted W (Pass W)) :
    Prop :=
  ∃ attempts : List (List (Pass W)), v'.notes = v.notes ++ attempts.flatten ∧
    (∀ es ∈ attempts, Passage is first es) ∧ k ≤ attempts.length ∧ (k < attempts.length → again)

namespace Makes

variable {is : List (Interceptor W)} {first : Request W} {again : Prop} {j k : Nat} {u v v' : Noted W (Pass W)}

omit [Ambient W] in
theorem of_eq (h : v'.notes = v.notes) : Makes is first again 0 v v' :=
  ⟨[], h.trans (List.append_nil _).symm, nofun, Nat.le_refl 0, nofun⟩

omit [Ambient W] in
theorem one {es : List (Pass W)} (hes : Passage is first es) (h : v'.notes = v.notes ++ es) :
    Makes is first again 1 v v' := by
  refine ⟨[es], ?_, List.forall_mem_singleton.mpr hes, Nat.le_refl 1, fun hlt => absurd hlt (Nat.lt_irrefl 1)⟩
  rw [h, List.flatten_singleton]

omit [Ambient W] in
theorem trans (h : Makes is first again j u v) (h' : Makes is first again k v v') :
    Makes is first again (j + k) u v' := by
  obtain ⟨attempts, hnotes, hall, hle, hmore⟩ := h
  obtain ⟨later, hnotes', hall', hle', hmore'⟩ := h'
  refine ⟨attempts ++ later, ?_, List.forall_mem_append.mpr ⟨hall, hall'⟩, ?_, fun hlt => ?_⟩
  · rw [hnotes', hnotes, List.flatten_append, List.append_assoc]
  · rw [List.length_append]
    exact Nat.add_le_add hle hle'
  · rw [List.length_append] at hlt
    by_cases hj : j < attempts.length
    · exact hmore hj
    · exact hmore' (by omega)

omit [Ambient W] in
/-- Where there may be more attempts they need not be counted. -/
theorem uncounted (hagain : again) (h : Makes is first again k u v) : Makes is first again 0 u v := by
  obtain ⟨attempts, hnotes, hall, -, -⟩ := h
  exact ⟨attempts, hnotes, hall, Nat.zero_le _, fun _ => hagain⟩

end Makes

/-- A call with this request starts with an attempt; while its response is read there are more only if there
    may be more. -/
def Exchange.Passes (is : List (Interceptor W)) (first : Request W) (again : Prop)
    (x : Exchange (Noted W (Pass W))) : Prop :=
  ∀ request v, request.plain = first → Makes is first again 1 v (x.execute request v).1 ∧
    ∀ r, (x.execute request v).2 = .ok r → ∀ use : Use (Noted W (Pass W)), use.Keeps Noted.Silent →
      ∀ u, Makes is first again 0 u (r.serve use u).1

variable {is : List (Interceptor W)} {first : Request W} {again : Prop}

omit [Ambient W] in
theorem Exchange.PassesOnce.passes {x : Exchange (Noted W (Pass W))} (hx : x.PassesOnce is) :
    x.Passes is first again := by
  rintro request v rfl
  obtain ⟨es, hpassage, hnotes, hresponse⟩ := hx request v
  refine ⟨.one hpassage hnotes, fun r hr use huse u => .of_eq ?_⟩
  exact (Response.quiet_iff.mp (hresponse r hr)).serve Noted.silent_changes huse u

namespace Retry

/-- What is to come writes nothing, attempts aside. -/
def Calm : Phase (Noted W (Pass W)) → Prop
  | .due session _ _ => session.Within Noted.Silent
  | .reading items session _ _ => items.Quiet ∧ session.Within Noted.Silent
  | .asking session _ _ _ => session.Within Noted.Silent
  | _ => True

/-- How many attempts the next step makes. -/
def Phase.attempts : Phase W → Nat
  | .due _ _ _ => 1
  | _ => 0

omit [Ambient W] in
theorem Phase.idle.attempts : ∀ {s : Phase W}, s.idle → s.attempts = 0
  | .reading _ _ _ _, _ => rfl
  | .complete, _ => rfl
  | .failed _, _ => rfl
  | .stalled, _ => rfl
  | .unanswered, _ => rfl

variable {a : Attempts (Noted W (Pass W))} {ms : List Mark} {v v' : Noted W (Pass W)}
  {s s' : Phase (Noted W (Pass W))}

theorem turn_makes (hl : a.listener.Quiet) (hx : a.inner.PassesOnce is) (h : Turn Noted.Silent a v s ms v' s')
    (hs : Calm s) : Makes is a.request.plain again s.attempts v v' ∧ Calm s' := by
  cases h with
  | refuse he =>
    obtain ⟨es, hpassage, hnotes, -⟩ := hx a.request v
    rw [he] at hnotes
    exact ⟨.one hpassage hnotes, hs⟩
  | stall he =>
    obtain ⟨es, hpassage, hnotes, -⟩ := hx a.request v
    rw [he] at hnotes
    exact ⟨.one hpassage hnotes, trivial⟩
  | arrive he hb =>
    obtain ⟨es, hpassage, hnotes, hresponse⟩ := hx a.request v
    rw [he] at hnotes hresponse
    obtain ⟨hbody, hitems⟩ := (hresponse _ rfl).body _
    rw [hb] at hbody hitems
    exact ⟨.one hpassage (hbody.trans hnotes), hitems, hs⟩
  | deliver hi =>
    obtain ⟨hitems, hsession⟩ := hs
    have hitem := hitems v
    rw [hi] at hitem
    exact ⟨.of_eq hitem.1, hitem.2, hsession⟩
  | finish hi =>
    have hend := hs.1 v
    rw [hi] at hend
    exact ⟨.of_eq hend, trivial⟩
  | collapse hi =>
    obtain ⟨hitems, hsession⟩ := hs
    have hitem := hitems v
    rw [hi] at hitem
    exact ⟨.of_eq hitem.1, hsession⟩
  | dry hi =>
    have hend := hs.1 v
    rw [hi] at hend
    exact ⟨.of_eq hend, trivial⟩
  | grant hc =>
    have hanswer := Session.Within.said Noted.silent_changes hs hc
    exact ⟨.of_eq ((hl _ _).trans hanswer.1), hanswer.2⟩
  | decline hc => exact ⟨.of_eq (Session.Within.said Noted.silent_changes hs hc), trivial⟩
  | silence hc => exact ⟨.of_eq (Session.Within.said Noted.silent_changes hs hc), trivial⟩
  | never hc => exact ⟨.of_eq (Session.Within.said Noted.silent_changes hs hc), trivial⟩
  | pause hidle hacts => exact ⟨hidle.attempts ▸ .of_eq hacts, hs⟩

theorem path_makes (hagain : again) (hl : a.listener.Quiet) (hx : a.inner.PassesOnce is)
    (h : Path Noted.Silent a v s ms v' s') (hs : Calm s) (hidle : s'.idle) :
    Makes is a.request.plain again s.attempts v v' ∧ Calm s' := by
  induction h with
  | stay => exact ⟨hidle.attempts ▸ .of_eq rfl, hs⟩
  | step hturn _ ih =>
    obtain ⟨hfirst, hs₁⟩ := turn_makes hl hx hturn hs
    obtain ⟨hrest, hs'⟩ := ih hs₁ hidle
    exact ⟨hfirst.trans (hrest.uncounted hagain), hs'⟩

theorem exchange_passes (hagain : again) {policy : Policy (Noted W (Pass W))} (hpolicy : policy.Within Noted.Silent)
    {l : Listener (Noted W (Pass W))} (hl : l.Quiet) (endpoint : Endpoint) {x : Exchange (Noted W (Pass W))}
    (hx : x.PassesOnce is) : (exchange policy l endpoint x).Passes is first again := by
  rintro request v rfl
  have hrun : (run ⟨endpoint.key, l, x, request⟩ policy v).Follows Noted.Silent _ _ _ := run_follows policy v
  obtain ⟨hopening, hsession⟩ := hpolicy v
  rw [exchange_execute]
  cases ho : run ⟨endpoint.key, l, x, request⟩ policy v with
  | failed v' e =>
    rw [ho] at hrun
    obtain ⟨ms, hpath, -⟩ := hrun
    obtain ⟨hmakes, -⟩ := path_makes hagain hl hx hpath hsession trivial
    exact ⟨(Makes.of_eq hopening).trans hmakes, nofun⟩
  | never v' =>
    rw [ho] at hrun
    obtain ⟨ms, s, hpath, hwaits, -⟩ := hrun
    obtain ⟨hmakes, -⟩ := path_makes hagain hl hx hpath hsession (Phase.idle_of_waits hwaits)
    exact ⟨(Makes.of_eq hopening).trans hmakes, nofun⟩
  | primed v' p resume =>
    rw [ho] at hrun
    obtain ⟨ms, session, queue, n, -, hpath, hrest, hresume⟩ := hrun
    have hidle := p.phase_idle session queue n
    obtain ⟨hmakes, hcalm⟩ := path_makes hagain hl hx hpath hsession hidle
    refine ⟨(Makes.of_eq hopening).trans hmakes, fun r hr use huse u => ?_⟩
    cases hr
    obtain ⟨ms', s', hpath', hidle', -⟩ := serve_takes endpoint.arity hrest hresume huse u
    exact hidle.attempts ▸ (path_makes hagain hl hx hpath' hcalm hidle').1

end Retry

/-! ### Whole calls -/

omit [Ambient W] in
theorem Exchange.Passes.call_makes {x : Exchange (Noted W (Pass W))} (hx : x.Passes is first again)
    {request : Request (Noted W (Pass W))} (hrequest : request.plain = first) {use : Use (Noted W (Pass W))}
    (huse : use.Keeps Noted.Silent) (v : Noted W (Pass W)) :
    Makes is first again 1 v (x.call request use v).1 := by
  obtain ⟨hmakes, hresponse⟩ := hx request v hrequest
  rw [Exchange.call]
  rcases he : x.execute request v with ⟨v', e | r | _⟩ <;> rw [he] at hmakes hresponse
  · exact hmakes
  · exact hmakes.trans (hresponse r rfl use huse v')
  · exact hmakes

/-- A listener adds no attempts to those of a call with the request it has hooked. -/
theorem Listener.call_makes {l : Listener (Noted W (Pass W))} (hl : l.Quiet) (methodKey : String)
    {x : Exchange (Noted W (Pass W))} (hx : x.Passes is first again) {request : Request (Noted W (Pass W))}
    {v : Noted W (Pass W)}
    (hrequest : (l.watchRequest (CallContext.start methodKey request v).2 request).plain = first)
    {use : Use (Noted W (Pass W))} (huse : use.Keeps Noted.Silent) :
    Makes is first again 1 v ((l.exchange methodKey x).call request use v).1 := by
  rcases hstart : CallContext.start methodKey request v with ⟨v₁, call⟩
  rw [hstart] at hrequest
  have hfresh : v₁.notes = v.notes := congrArg (·.1.notes) hstart.symm
  have hstarted : Makes is first again 0 v (l.notify (.requestStarted call request) v₁) :=
    .of_eq ((hl _ _).trans hfresh)
  obtain ⟨hmakes, hresponse⟩ := hx _ (l.notify (.requestStarted call request) v₁) hrequest
  rcases he : x.execute (l.watchRequest call request) (l.notify (.requestStarted call request) v₁) with
    ⟨v₂, e | r | _⟩ <;> rw [he] at hmakes hresponse
  · rw [l.watched_of_error hstart he]
    exact (hstarted.trans hmakes).trans (.of_eq (hl _ _))
  · let answered := l.notify (.responseReceived call r.status r.headers (call.elapsed v₂)) v₂
    have hitem : ∀ item u, (l.tellItem call item u).notes = u.notes := by
      intro item u
      cases item <;> exact hl _ _
    have hafter : (use.after (l.tellItem call)).Keeps Noted.Silent := huse.after (fun h h' => h'.trans h) hitem
    obtain ⟨hserved, -⟩ := l.serve_watched hitem r use answered
    have hread := hresponse r rfl _ hafter answered
    rw [l.watched_of_ok hstart he]
    exact (hstarted.trans hmakes).trans (((Makes.of_eq (hl _ _)).trans hread).trans (.of_eq hserved))
  · rw [l.watched_of_never hstart he]
    exact hstarted.trans hmakes

namespace Blueprint

/-- The request that attempts start with: that of the caller, with the hook of the listener on its body. -/
def watchedRequest (b : Blueprint W) (request : Request W) (w : W) : Request W := match b.listener with
  | none => request
  | some l => l.watchRequest (CallContext.start b.endpoint.key request w).2 request

theorem retried_passes {l : Listener (Noted W (Pass W))} (hl : l.Quiet) :
    ((b.passed wire parts).retried wire' l).Passes parts.leaves first (b.policy ≠ none) := by
  have hattempt := b.attempt_passes wire wire' parts
  have hpolicy : (b.passed wire parts).policy = b.policy.map Retry.Policy.silent := rfl
  rw [retried, hpolicy]
  cases b.policy with
  | none => exact hattempt.passes
  | some p => exact Retry.exchange_passes (Option.some_ne_none p) p.silent_within hl b.endpoint hattempt

theorem passed_makes (request : Request W) (use : Use W) (w : W) :
    Makes parts.leaves (b.watchedRequest request w) (b.policy ≠ none) 1 ⟨w, []⟩
      (((b.passed wire parts).pipeline wire').call request.noted use.noted ⟨w, []⟩).1 := by
  have hlistener : (b.passed wire parts).listener = b.listener.map (Listener.noted fun _ => []) := rfl
  cases hl : b.listener with
  | none =>
    have hquiet := Listener.CallLog.listener_quiet (W := W) (E := Pass W) .brief
    have hfirst : b.watchedRequest request w = request := by rw [watchedRequest, hl]
    rw [hl] at hlistener
    rw [pipeline_unwatched wire' _ hlistener, hfirst]
    exact (b.retried_passes wire wire' parts hquiet).call_makes (Request.plain_noted request) use.noted_keeps _
  | some l =>
    have hquiet := l.noted_quiet (E := Pass W)
    have hfirst : b.watchedRequest request w = l.watchRequest (CallContext.start b.endpoint.key request w).2 request := by
      rw [watchedRequest, hl]
    rw [hl] at hlistener
    rw [pipeline_watched wire' _ hlistener, hfirst]
    refine Listener.call_makes hquiet b.endpoint.key (b.retried_passes wire wire' parts hquiet) ?_ use.noted_keeps
    exact (l.noted_alike fun _ => []).hooked _ _ _ (Request.plain_noted request)

end Blueprint

namespace Interceptor

/-- A tree of chains, however deep they are and however their parts were added, applies its leaves: each once,
    from left to right, each to the request of the one before it, and names interceptors in the log besides.
    So trees with the same leaves make the same requests, and change the surroundings in the same way, the log
    aside: a tree is as good as the chain of its leaves, and chains without parts may stand anywhere. A chain
    of some interceptors and others is the chain of the ones followed by the chain of the others, and a chain
    of none leaves a request as it is.

    In a client, each attempt applies the leaves of all its interceptors in this way and sends what comes out;
    the first leaf is always given the request of the caller. There is one attempt, and more only if there is
    a policy. That leaves and transport write notes changes neither the surroundings nor what the caller has
    of the call. -/
theorem chains_compose (w₀ : W) :
    (∀ (t : Tree W) r w, Through t.leaves r w (t.interceptor.apply r w).2 (t.interceptor.apply r w).1) ∧
    (∀ {P : Type} (view : W → P), TraceHidden view → ∀ t : Tree W, (∀ i ∈ t.leaves, i.Sees view) → ∀ r w,
      (t.interceptor.apply r w).2 = ((chain t.leaves).apply r w).2 ∧
      view (t.interceptor.apply r w).1 = view ((chain t.leaves).apply r w).1 ∧
      ∀ t' : Tree W, t'.leaves = t.leaves → (t'.interceptor.apply r w).2 = (t.interceptor.apply r w).2 ∧
        view (t'.interceptor.apply r w).1 = view (t.interceptor.apply r w).1) ∧
    (∀ (is js : List (Interceptor W)) r w, (chain (is ++ js)).apply r w
      = (chain js).apply ((chain is).apply r w).2 ((chain is).apply r w).1) ∧
    (∀ (r : Request W) w, (chain []).apply r w = (w, r)) ∧
    ∀ (parts : Parts W) (request : Request W) (use : Use W) (w : W),
      let client := (Blueprint.build wire { b with interceptors := parts.interceptors } w₀).2
      let noted := ((b.passed wire parts).pipeline wire').call request.noted use.noted ⟨w, []⟩
      (noted.1.world, noted.2) = client.pipeline.call request use w ∧
      ∃ attempts : List (List (Pass W)), noted.1.notes = attempts.flatten ∧ attempts ≠ [] ∧
        (b.policy = none → attempts.length = 1) ∧
        ∀ es ∈ attempts, Passage parts.leaves (b.watchedRequest request w) es := by
  refine ⟨fun t r w => t.through r w, fun view hlog t ht r w => ?_, applyAll_append, fun _ _ => rfl,
    fun parts request use w => ⟨?_, ?_⟩⟩
  · obtain ⟨hmade, hview⟩ := Tree.flat hlog ht r w
    exact ⟨hmade, hview, fun t' ht' => Tree.same hlog ht' ht r w⟩
  · have halike := (b.passed_alike wire wire' parts).pipeline Noted.ambient_alike fun r r' h => by
      cases h
      exact ⟨rfl, rfl⟩
    obtain ⟨hworld, hreceipt⟩ := halike.call (Request.plain_noted request) use.noted_alike (v := ⟨w, []⟩) rfl
    exact Prod.ext hworld hreceipt
  · obtain ⟨attempts, hnotes, hall, hle, hmore⟩ := b.passed_makes wire wire' parts request use w
    refine ⟨attempts, hnotes, List.length_pos_iff.mp hle, fun hnone => ?_, hall⟩
    by_contra hne
    exact hmore (by omega) hnone

/-- What a counting interceptor does can be told from the counts so far. -/
theorem count_sees (id : Nat) : (Rehearsal.Edit.count id).interceptor.Sees Rehearsal.Stage.tallies := by
  intro r v w h
  have hcount : (v.count id).1 = (w.count id).1 ∧ (v.count id).2.tallies = (w.count id).2.tallies := by
    simp only [Rehearsal.Stage.count, h, and_self]
  simp only [Rehearsal.Edit.interceptor, Rehearsal.Edit.apply, hcount, and_self]

open Rehearsal in
/-- A chain in a chain, behind an empty one, and the same leaves in one chain: one leaf counts, the other one
    touches header fields only. All but the log is the same. -/
theorem composed_of_nested :
    let counting := (Edit.count 0).interceptor
    let tagging := ofHeaders "tag" (Http.Headers.append ⟨"x-tag"⟩ ⟨[57], false⟩)
    let inner : Tree Stage := .chain (.push (.append .none (.leaf counting)) (.leaf tagging))
    let nested : Tree Stage := .chain (.push (.append .none (.chain .none)) inner)
    let flat : Tree Stage := .chain (.append (.push .none (.leaf counting)) (.leaf tagging))
    let values (name : String) (r : Request Stage) := (Http.Headers.values ⟨name⟩ r.headers).map (·.bytes)
    TraceHidden Stage.tallies ∧ (∀ i ∈ nested.leaves, i.Sees Stage.tallies) ∧ flat.leaves = nested.leaves ∧
    (flat.interceptor.apply upload.1 fallen).2 = (nested.interceptor.apply upload.1 fallen).2 ∧
    (flat.interceptor.apply upload.1 fallen).1.tallies = (nested.interceptor.apply upload.1 fallen).1.tallies ∧
    values "x-attempt" (nested.interceptor.apply upload.1 fallen).2 = [[49]] ∧
    values "x-tag" (nested.interceptor.apply upload.1 fallen).2 = [[57]] ∧
    (flat.interceptor.apply upload.1 fallen).1.events.length
      < (nested.interceptor.apply upload.1 fallen).1.events.length := by
  intro counting tagging inner nested flat values
  have hlog : TraceHidden Stage.tallies := fun _ _ _ => rfl
  have hleaves : ∀ i ∈ nested.leaves, i.Sees Stage.tallies := by
    intro i hi
    rcases List.mem_pair.mp hi with rfl | rfl
    · exact count_sees 0
    · exact ofHeaders_sees _ _ _
  obtain ⟨-, hview, -⟩ := chains_compose .deaf .deaf persistent fallen
  obtain ⟨-, -, hsame⟩ := hview Stage.tallies hlog nested hleaves upload.1 fallen
  obtain ⟨hmade, htallies⟩ := hsame flat rfl
  exact ⟨hlog, hleaves, rfl, hmade, htallies, by decide +kernel, by decide +kernel, by decide +kernel⟩

open Rehearsal in
/-- A leaf that counts attempts, in a chain in a chain, and one in another chain; an empty chain stands in
    front of them. The first attempt fails, and the second one knows nothing of its number. -/
example :
    let counting : Tree Stage := .chain (.push .none (.leaf (Edit.count 0).interceptor))
    let last : Tree Stage := .chain (.append .none (.leaf (Edit.append "x-last" "1").interceptor))
    let parts : Parts Stage := .push (.append .none (.chain .none)) (.chain (.push (.append .none counting) last))
    let result := ((persistent.passed .deaf parts).pipeline .deaf).call upload.1.noted upload.2.noted ⟨fallen, []⟩
    let attempt (r : Request Stage) := (Http.Headers.values ⟨"x-attempt"⟩ r.headers).map (·.bytes)
    result.1.notes.map (fun
      | .applied leaf given made => (some leaf, attempt given, attempt made)
      | .sent r => (none, attempt r, [])) =
      [(some 0, [], [[49]]), (some 1, [[49]], [[49]]), (none, [[49]], []),
        (some 0, [], [[50]]), (some 1, [[50]], [[50]]), (none, [[50]], [])] := by
  decide +kernel

end Interceptor
end Courier
