import Courier.Proofs.Listener.Aside
import Courier.Proofs.NotFound.Sight
import Courier.Proofs.Results
import Courier.Rehearsal.Parts

/-! Calls of clients that take what is not found for empty.

    The first answer that nothing was found ends a call, and it ends well: if nothing has been handed out
    before, the caller has an empty response, else the body ends with the elements that are there
    (`not_found_is_empty`). -/

namespace Courier

variable {W : Type}

/-! ### Retries -/

/-- Telling of a retry writes nothing. -/
def Listener.RetriesQuietly [Ambient W] (l : Listener (Noted W Sight)) : Prop :=
  ∀ key n e v, (l.notify (.retryAttempt key n e) v).notes = v.notes

namespace Retry

/-- What is to come writes down nothing but what is read. -/
def Watched : Phase (Noted W Sight) → Prop
  | .due session _ _ => session.Within (Finds [])
  | .reading items session _ _ => items.Within Finds.ofItem (Finds []) ∧ session.Within (Finds [])
  | .asking session _ _ _ => session.Within (Finds [])
  | _ => True

/-- The last attempt has found nothing; `base` is where the notes start. -/
def Ended (base : Noted W Sight) (seen : List Mark) (v : Noted W Sight) (s : Phase (Noted W Sight)) : Prop :=
  ∃ before headers, Misses (elements before) headers base v ∧
    ((seen = before ++ [.arrived 200 headers] ∧ ∃ session queue n, s = .reading .empty session queue n) ∨
      (seen = before ++ [.arrived 200 headers] ++ [.finished] ∧ s = .complete))

/-- The elements that were read have been delivered; each attempt but the last has found something. -/
def Faithful (base : Noted W Sight) (seen : List Mark) (v : Noted W Sight) (s : Phase (Noted W Sight)) : Prop :=
  (Finds (elements seen) base v ∧ Watched s) ∨ Ended base seen v s

/-- Nothing is left to be read then, and there is no failure. -/
theorem Ended.settled {base : Noted W Sight} {seen : List Mark} {v : Noted W Sight}
    {s : Phase (Noted W Sight)} (h : Ended base seen v s) :
    seen ≠ [] ∧ s.refusal = [] ∧ s.waits = false ∧ ∃ headers, Misses (elements seen) headers base v := by
  obtain ⟨before, headers, hmissed, hseen⟩ := h
  have harrived : elements (before ++ [.arrived 200 headers]) = elements before := by
    rw [elements_append]
    exact List.append_nil _
  have hfinished : elements (before ++ [.arrived 200 headers] ++ [.finished]) = elements before := by
    rw [elements_append, harrived]
    exact List.append_nil _
  rcases hseen with ⟨rfl, _, _, _, rfl⟩ | ⟨rfl, rfl⟩
  · exact ⟨by simp, rfl, rfl, headers, harrived ▸ hmissed⟩
  · exact ⟨by simp, rfl, rfl, headers, hfinished ▸ hmissed⟩

variable [Ambient W] {a : Attempts (Noted W Sight)} {base : Noted W Sight}

omit [Ambient W] in
theorem Faithful.extend {seen ms : List Mark} {v v' : Noted W Sight} {s' : Phase (Noted W Sight)}
    (h : Finds (elements seen) base v) (hms : Finds (elements ms) v v') (hs' : Watched s') :
    Faithful base (seen ++ ms) v' s' := by
  refine .inl ⟨?_, hs'⟩
  rw [elements_append]
  exact h.trans hms

theorem faithful_turn (hl : a.listener.RetriesQuietly) (hx : a.inner.Sighted) {seen ms : List Mark}
    {v v' : Noted W Sight} {s s' : Phase (Noted W Sight)}
    (h : Turn (fun v v' => v'.notes = v.notes) a v s ms v' s') (hs : Faithful base seen v s) :
    Faithful base (seen ++ ms) v' s' := by
  rcases hs with ⟨hnotes, hwatched⟩ | hended
  · cases h with
    | refuse he => exact .extend hnotes ((hx.refused he).trans (.of_eq rfl)) hwatched
    | stall he => exact .extend hnotes (hx.never he) trivial
    | arrive he hb =>
      rcases hx.arrived he with ⟨headers, ⟨u, hread, hmissed⟩, rfl⟩ | ⟨hread, hopen⟩
      -- nothing was found, and the body is empty
      · cases hb
        refine .inr ⟨seen ++ [.sent], headers, ⟨u, ?_, hmissed⟩, .inl ⟨by rw [List.append_assoc]; rfl, _, _, _, rfl⟩⟩
        rw [elements_append]
        exact hnotes.trans hread
      · obtain ⟨hbody, hitems⟩ := hopen.body _
        rw [hb] at hbody hitems
        exact .extend hnotes (hread.trans hbody) ⟨hitems, hwatched⟩
    | deliver hi =>
      obtain ⟨hitems, hsession⟩ := hwatched
      have hitem := hitems v
      rw [hi] at hitem
      exact .extend hnotes hitem.1 ⟨hitem.2, hsession⟩
    | finish hi =>
      have hend := hwatched.1 v
      rw [hi] at hend
      exact .extend hnotes hend trivial
    | collapse hi =>
      obtain ⟨hitems, hsession⟩ := hwatched
      have hitem := hitems v
      rw [hi] at hitem
      exact .extend hnotes (hitem.1.trans (.of_eq rfl)) hsession
    | dry hi =>
      have hend := hwatched.1 v
      rw [hi] at hend
      exact .extend hnotes hend trivial
    | grant hc =>
      have hanswer := Session.Within.said Finds.changes hwatched hc
      exact .extend hnotes (hanswer.1.trans (.of_eq (hl _ _ _ _))) hanswer.2
    | decline hc => exact .extend hnotes (Session.Within.said Finds.changes hwatched hc) trivial
    | silence hc => exact .extend hnotes (Session.Within.said Finds.changes hwatched hc) trivial
    | never hc => exact .extend hnotes (Session.Within.said Finds.changes hwatched hc) trivial
    | pause _ ha => exact .extend hnotes (.of_eq ha) hwatched
  -- behind an empty response there is only its end
  · obtain ⟨before, headers, ⟨u, hread, hmissed⟩, ⟨rfl, session, queue, n, rfl⟩ | ⟨rfl, rfl⟩⟩ := hended
    · cases h with
      | deliver hi => cases hi
      | collapse hi => cases hi
      | dry hi => cases hi
      | finish hi =>
        cases hi
        exact .inr ⟨before, headers, ⟨u, hread, hmissed⟩, .inr ⟨rfl, rfl⟩⟩
      | pause _ ha =>
        exact .inr ⟨before, headers, ⟨u, hread, ha.trans hmissed⟩, .inl ⟨List.append_nil _, _, _, _, rfl⟩⟩
    · cases h with
      | pause _ ha =>
        exact .inr ⟨before, headers, ⟨u, hread, ha.trans hmissed⟩, .inr ⟨List.append_nil _, rfl⟩⟩

omit [Ambient W] in
/-- If the body that was handed out is empty, so is the response. -/
theorem toResponse_void (arity : Arity) {p : Primed W} {resume : Failure → W → Outcome W}
    (hfirst : p.first = none) (hrest : p.rest = .empty) :
    toResponse arity p resume = .void p.status p.headers := by
  obtain ⟨status, headers, first, rest⟩ := p
  cases hfirst
  cases hrest
  cases arity <;> rfl

end Retry

/-! ### Exchanges -/

/-- What becomes of the notes, and what the caller has, if it goes on with a response whose body starts with
    these elements: everything is found, or the body ends where nothing is. -/
def Served (arity : Arity) (js : List Json) (use : Use (Noted W Sight)) (u : Noted W Sight)
    (served : Noted W Sight × Taken) : Prop :=
  (∃ js', Finds js' u served.1) ∨
    ∃ js' headers, Misses js' headers u served.1 ∧ (arity = .flux ∧ js ≠ []) ∧
      served.2 = use.takes arity (js ++ js')

/-- What counts are the notes, and what the caller has. -/
theorem Served.of_same {arity : Arity} {js : List Json} {use use' : Use (Noted W Sight)} {u : Noted W Sight}
    {served served' : Noted W Sight × Taken} (h : Served arity js use u served)
    (hnotes : served'.1.notes = served.1.notes) (htaken : served'.2 = served.2)
    (huse : ∀ js, use.takes arity js = use'.takes arity js) : Served arity js use' u served' := by
  rcases h with ⟨js', h⟩ | ⟨js', headers, ⟨v, hread, hmissed⟩, hjs, htakes⟩
  · exact .inl ⟨js' ++ [], h.trans (.of_eq hnotes)⟩
  · exact .inr ⟨js', headers, ⟨v, hread, hnotes.trans hmissed⟩, hjs, by rw [htaken, htakes, huse]⟩

/-- What comes of an exchange: a failure, nothing ever, an empty response of which `told` is written down
    because nothing was found, or a response to go on with. -/
inductive Executed (told : Http.Headers → List Sight) (arity : Arity) (v : Noted W Sight) :
    Noted W Sight × Eventual Failure (Response (Noted W Sight)) → Prop where
  | refused {v' e} (js) (h : Finds js v v') : Executed told arity v (v', .error e)
  | stalled {v'} (js) (h : Finds js v v') : Executed told arity v (v', .never)
  | missing {u v' headers} (h : Misses [] headers v u) (hv : v'.notes = u.notes ++ told headers) :
    Executed told arity v (v', .ok (.void 200 headers))
  | opened {v' r} (js) (h : Finds js v v') (hr : ∀ use : Use (Noted W Sight),
      use.Keeps (fun v v' => v'.notes = v.notes) → ∀ u, Served arity js use u (r.serve use u)) :
    Executed told arity v (v', .ok r)

/-- Some elements were read. -/
def FindsSome (v v' : Noted W Sight) : Prop := ∃ js, Finds js v v'

theorem FindsSome.changes : Changes (FindsSome (W := W)) :=
  ⟨fun _ => ⟨[], .of_eq rfl⟩, fun ⟨_, h⟩ ⟨_, h'⟩ => ⟨_, h.trans h'⟩⟩

/-- A client without a policy makes one attempt. -/
theorem Exchange.Sighted.executed {x : Exchange (Noted W Sight)} (hx : x.Sighted) (arity : Arity)
    (request : Request (Noted W Sight)) (v : Noted W Sight) :
    Executed (fun _ => []) arity v (x.execute request v) := by
  rcases he : x.execute request v with ⟨v', e | r | _⟩
  · exact .refused [] (hx.refused he)
  · rcases hx.arrived he with ⟨headers, hmissed, rfl⟩ | ⟨hread, hopen⟩
    · exact .missing hmissed (List.append_nil _).symm
    · refine .opened [] hread fun use huse u => .inl ?_
      have hsome : r.Within (fun _ => FindsSome) FindsSome :=
        hopen.mono (fun _ _ _ h => ⟨_, h⟩) fun _ _ h => ⟨_, h⟩
      exact hsome.serve FindsSome.changes (huse.mono fun _ _ h => ⟨[], .of_eq h⟩) u
  · exact .stalled [] (hx.never he)

/-- Going on with a response that was handed out: the first answer that nothing is found ends its body. -/
theorem Retry.serve_served [Ambient W] {a : Attempts (Noted W Sight)} (hl : a.listener.RetriesQuietly)
    (hx : a.inner.Sighted) (arity : Arity) {p : Primed (Noted W Sight)}
    {resume : Failure → Noted W Sight → Outcome (Noted W Sight)} {session : Session (Noted W Sight)}
    {queue : List Failure} {n : Nat} (hrest : p.first = none → p.rest = .empty)
    (hresume : ∀ e v, (resume e v).Follows (fun v v' => v'.notes = v.notes) a (report a n e v)
      (.asking session (queue ++ [e]) e n))
    (hwatched : Watched (p.phase session queue n)) {use : Use (Noted W Sight)}
    (huse : use.Keeps fun v v' => v'.notes = v.notes) (u : Noted W Sight) :
    Served arity p.first.toList use u ((toResponse arity p resume).serve use u) := by
  obtain ⟨ms, s', hpath, -, hmono, htaken⟩ := serve_takes arity hrest hresume huse u
  have hlater : Faithful u ([] ++ ms) _ s' := hpath.keeps (I := Faithful u) (faithful_turn hl hx) []
    (.inl ⟨.of_eq rfl, hwatched⟩)
  rw [List.nil_append] at hlater
  rcases hlater with ⟨hread, -⟩ | hended
  · exact .inl ⟨_, hread⟩
  · obtain ⟨hms, hrefusal, hwaits, headers, hmissed⟩ := hended.settled
    have hflux : arity = .flux := by
      cases harity : arity with
      | flux => rfl
      | mono => exact absurd (hmono harity) hms
    refine .inr ⟨_, headers, hmissed, ⟨hflux, fun hnone => ?_⟩, htaken hms hrefusal hwaits⟩
    -- without a first element the call was complete
    have hcomplete : p.phase session queue n = .complete := by
      rw [Primed.phase, Option.toList_eq_nil_iff.mp hnone]
      rfl
    rw [hcomplete] at hpath
    exact hms hpath.of_complete.1

/-- A client with a policy tries until something or nothing is found. -/
theorem Retry.exchange_executed [Ambient W] {policy : Policy (Noted W Sight)} (hpolicy : policy.Within (Finds []))
    {l : Listener (Noted W Sight)} (hl : l.RetriesQuietly) (endpoint : Endpoint)
    {x : Exchange (Noted W Sight)} (hx : x.Sighted) (request : Request (Noted W Sight)) (v : Noted W Sight) :
    Executed (fun _ => []) endpoint.arity v ((exchange policy l endpoint x).execute request v) := by
  have hrun : (run ⟨endpoint.key, l, x, request⟩ policy v).Follows (fun v v' => v'.notes = v.notes) _ _ _ :=
    run_follows policy v
  obtain ⟨hopening, hsession⟩ := hpolicy v
  have hstart : Faithful v [] (policy.opening v).1 (.due (policy.opening v).2 [] 0) :=
    .inl ⟨hopening, hsession⟩
  rw [exchange_execute]
  cases ho : run ⟨endpoint.key, l, x, request⟩ policy v with
  | failed v' e =>
    rw [ho] at hrun
    obtain ⟨ms, hpath, -⟩ := hrun
    have hend : Faithful v ([] ++ ms) v' (.failed e) :=
      hpath.keeps (I := Faithful v) (faithful_turn hl hx) [] hstart
    rcases hend with ⟨hread, -⟩ | ⟨_, _, -, ⟨-, _, _, _, hphase⟩ | ⟨-, hphase⟩⟩
    · exact .refused _ hread
    · cases hphase
    · cases hphase
  | never v' =>
    rw [ho] at hrun
    obtain ⟨ms, s, hpath, hwaits, -⟩ := hrun
    have hend : Faithful v ([] ++ ms) v' s := hpath.keeps (I := Faithful v) (faithful_turn hl hx) [] hstart
    rcases hend with ⟨hread, -⟩ | hended
    · exact .stalled _ hread
    · rw [hended.settled.2.2.1] at hwaits
      cases hwaits
  | primed v' p resume =>
    rw [ho] at hrun
    obtain ⟨ms, session, queue, n, hms, hpath, hrest, hresume⟩ := hrun
    have hend : Faithful v ([] ++ (ms ++ p.marks)) v' (p.phase session queue n) :=
      hpath.keeps (I := Faithful v) (faithful_turn hl hx) [] hstart
    rw [List.nil_append] at hend
    rcases hend with ⟨hread, hwatched⟩ | ⟨before, headers, hmissed, ⟨hseen, -⟩ | ⟨hseen, -⟩⟩
    -- something was found, and the caller goes on with it
    · rw [p.elements_marks hms] at hread
      exact .opened _ hread fun use huse u => serve_served hl hx endpoint.arity hrest hresume hwatched huse u
    -- the first element has been read ahead, so the last mark is not that of an arrival
    · have hlast := congrArg List.getLast? hseen
      cases hf : p.first <;> simp [Primed.marks, hf] at hlast
    · rw [List.append_assoc, Primed.marks] at hseen
      obtain ⟨rfl, hmarks⟩ := List.append_inj' hseen rfl
      obtain ⟨harrived, hlast⟩ := List.cons.inj hmarks
      obtain ⟨hstatus, hheaders⟩ := Mark.arrived.inj harrived
      have hfirst : p.first = none := by
        cases hf : p.first with
        | none => rfl
        | some j => simp [hf] at hlast
      have hvoid : toResponse endpoint.arity p resume = .void 200 headers := by
        rw [toResponse_void endpoint.arity hfirst (hrest hfirst), hstatus, hheaders]
      rw [elements_of_not_yields hms] at hmissed
      simp only [hvoid]
      exact .missing hmissed (List.append_nil _).symm

/-! ### Listeners -/

variable [Ambient W]

/-- A listener notes the empty response where nothing was found, and nothing behind it. -/
theorem Listener.exchange_executed (l : Listener W) (methodKey : String) {arity : Arity}
    {inner : Exchange (Noted W Sight)}
    (hinner : ∀ request v, Executed (fun _ => []) arity v (inner.execute request v))
    (request : Request (Noted W Sight)) (v : Noted W Sight) :
    Executed (fun headers => [.reported 200 headers]) arity v
      (((l.noted Sight.ofNotice).exchange methodKey inner).execute request v) := by
  have htold := l.notify_noted Sight.ofNotice
  have hitem : ∀ call item u, ((l.noted Sight.ofNotice).tellItem call item u).notes = u.notes := by
    intro call item u
    cases item <;> exact (htold _ _).trans (List.append_nil _)
  rcases hstart : CallContext.start methodKey request v with ⟨v₁, call⟩
  have hfresh : v₁.notes = v.notes := congrArg (·.1.notes) hstart.symm
  have hstarted : Finds [] v ((l.noted Sight.ofNotice).notify (.requestStarted call request) v₁) :=
    .of_eq ((htold _ _).trans ((List.append_nil _).trans hfresh))
  have hexecuted := hinner ((l.noted Sight.ofNotice).watchRequest call request)
    ((l.noted Sight.ofNotice).notify (.requestStarted call request) v₁)
  rw [exchange_execute, hstart]
  simp only
  generalize inner.execute _ _ = result at hexecuted
  cases hexecuted with
  | @refused v' e js h =>
    have hfailed : Finds [] v' ((l.noted Sight.ofNotice).notify (.errorReceived call e (call.elapsed v')) v') :=
      ⟨[], htold _ _, rfl, rfl⟩
    exact .refused _ (hstarted.trans (h.trans hfailed))
  | stalled js h => exact .stalled _ (hstarted.trans h)
  | @missing u v' headers h hv =>
    refine .missing (u := u) (hstarted.misses h) ?_
    rw [List.append_nil] at hv
    rw [← hv]
    exact htold _ _
  | @opened v' r js h hr =>
    have hreported : Finds [] v' ((l.noted Sight.ofNotice).notify
        (.responseReceived call r.status r.headers (call.elapsed v')) v') :=
      ⟨[.reported r.status r.headers], htold _ _, rfl, rfl⟩
    refine .opened (js ++ []) (hstarted.trans (h.trans hreported)) fun use huse u => ?_
    have hafter : (use.after ((l.noted Sight.ofNotice).tellItem call)).Keeps fun v v' => v'.notes = v.notes :=
      huse.after (fun h h' => h'.trans h) (hitem call)
    obtain ⟨hnotes, htaken⟩ := Listener.serve_watched (hitem call) r use u
    rw [List.append_nil]
    exact (hr _ hafter u).of_same hnotes htaken fun js => use.after_takes _ _ js

/-! ### Calls -/

omit [Ambient W] in
theorem Response.serve_void (status : Nat) (headers : Http.Headers) (arity : Arity) :
    ∀ {use : Use (Noted W Sight)}, use.Keeps (fun v v' => v'.notes = v.notes) → ∀ v,
      ((Response.void status headers).serve use v).1.notes = v.notes ∧
        ((Response.void status headers).serve use v).2 = use.takes arity []
  | .leave, _, _ => ⟨rfl, rfl⟩
  | .data, _, _ => ⟨rfl, by cases arity <;> rfl⟩
  | .body reader, huse, v => by
    simp only [void, serve, Stream.readBy, Stream.empty]
    cases hv : reader [] v with
    | none => exact ⟨rfl, rfl⟩
    | some v' => exact ⟨huse _ _ _ hv, rfl⟩

/-- A call in which nothing was missing, or in which the caller has an empty response, or elements up to
    where nothing was found. -/
inductive Called (told : Http.Headers → List Sight) (arity : Arity) (use : Use (Noted W Sight))
    (v : Noted W Sight) : Noted W Sight × Receipt → Prop where
  | found {v' receipt} (js) (h : Finds js v v') : Called told arity use v (v', receipt)
  | missing {u v' headers} (h : Misses [] headers v u) (hv : v'.notes = u.notes ++ told headers) :
    Called told arity use v (v', .response 200 headers (use.takes arity []))
  | ended {v' js headers} (status headers') (h : Misses js headers v v') (hjs : arity = .flux ∧ js ≠ []) :
    Called told arity use v (v', .response status headers' (use.takes arity js))

omit [Ambient W] in
theorem Executed.called {told : Http.Headers → List Sight} {arity : Arity} {x : Exchange (Noted W Sight)}
    {request : Request (Noted W Sight)} {v : Noted W Sight}
    (h : Executed told arity v (x.execute request v)) {use : Use (Noted W Sight)}
    (huse : use.Keeps fun v v' => v'.notes = v.notes) :
    Called told arity use v (x.call request use v) := by
  rw [Exchange.call]
  generalize x.execute request v = result at h
  cases h with
  | refused js h => exact .found js h
  | stalled js h => exact .found js h
  | @missing u v' headers h hv =>
    obtain ⟨hnotes, htaken⟩ := Response.serve_void 200 headers arity huse v'
    simp only [htaken]
    exact .missing h (hnotes.trans hv)
  | @opened v' r js h hr =>
    simp only
    rcases hr use huse v' with ⟨js', hread⟩ | ⟨js', headers, hmissed, ⟨hflux, hjs⟩, htaken⟩
    · exact .found _ (h.trans hread)
    · rw [htaken]
      exact .ended _ _ (h.misses hmissed) ⟨hflux, fun hnone => hjs (List.append_eq_nil_iff.mp hnone).1⟩

/-- Where the only note of its kind stands is where any such note stands. -/
theorem split_unique {α : Type} {p : α → Bool} {x y : α} {before later before' later' : List α}
    (hbefore : before.all (!p ·)) (hlater : later.all (!p ·)) (hy : p y)
    (h : before ++ x :: later = before' ++ y :: later') : before' = before ∧ y = x ∧ later' = later := by
  have hnone : ∀ {l : List α}, l.all (!p ·) → y ∉ l := by
    intro l hl hmem
    have hno := List.all_eq_true.mp hl y hmem
    rw [hy] at hno
    cases hno
  rcases List.append_eq_append_iff.mp h with ⟨between, rfl, hrest⟩ | ⟨between, rfl, hrest⟩
  · cases between with
    | nil =>
      obtain ⟨rfl, rfl⟩ := List.cons.inj hrest
      exact ⟨List.append_nil _, rfl, rfl⟩
    | cons z between =>
      obtain ⟨-, rfl⟩ := List.cons.inj hrest
      exact absurd (by simp) (hnone hlater)
  · cases between with
    | nil =>
      obtain ⟨rfl, rfl⟩ := List.cons.inj hrest
      exact ⟨(List.append_nil _).symm, rfl, rfl⟩
    | cons z between =>
      obtain ⟨rfl, -⟩ := List.cons.inj hrest
      exact absurd (by simp) (hnone hbefore)

namespace Blueprint

variable (wire : Wire W) (wire' : Wire (Noted W Sight)) (b : Blueprint W)

/-- What the listener of a client notes of the response where nothing was found. -/
def reports (b : Blueprint W) (headers : Http.Headers) : List Sight :=
  b.listener.toList.map fun _ => .reported 200 headers

theorem sighted_retried {l : Listener (Noted W Sight)} (hl : l.RetriesQuietly)
    (request : Request (Noted W Sight)) (v : Noted W Sight) : Executed (fun _ => []) b.endpoint.arity v
      (((b.sighted wire).retried wire' l).execute request v) := by
  have hattempt := b.attempt_sighted wire wire'
  have hpolicy : (b.sighted wire).policy = b.policy.map (Retry.Policy.voiced [.consulted]) := rfl
  rw [retried, hpolicy]
  cases b.policy with
  | none => exact hattempt.executed b.endpoint.arity request v
  | some p => exact Retry.exchange_executed p.voiced_within hl b.endpoint hattempt request v

theorem sighted_called (request : Request W) (use : Use W) (w : W) :
    Called b.reports b.endpoint.arity use.noted ⟨w, []⟩
      (((b.sighted wire).pipeline wire').call request.noted use.noted ⟨w, []⟩) := by
  have hlistener : (b.sighted wire).listener = b.listener.map (Listener.noted Sight.ofNotice) := rfl
  cases hl : b.listener with
  | none =>
    have hreports : b.reports = fun _ => [] := funext fun _ => by rw [reports, hl]; rfl
    rw [hl] at hlistener
    rw [pipeline_unwatched wire' _ hlistener, hreports]
    have hquiet : (Listener.CallLog.brief.listener (W := Noted W Sight)).RetriesQuietly :=
      fun _ _ _ _ => Listener.CallLog.listener_quiet _ _ _
    exact (b.sighted_retried wire wire' hquiet _ _).called use.noted_keeps
  | some l =>
    have hreports : b.reports = fun headers => [.reported 200 headers] :=
      funext fun _ => by rw [reports, hl]; rfl
    rw [hl] at hlistener
    rw [pipeline_watched wire' _ hlistener, hreports]
    have hquiet : (l.noted Sight.ofNotice).RetriesQuietly := fun _ _ _ v =>
      (l.notify_noted Sight.ofNotice _ v).trans (List.append_nil _)
    exact (l.exchange_executed b.endpoint.key (b.sighted_retried wire wire' hquiet) _ _).called use.noted_keeps

/-- Behind the note that nothing was found there is only what the listener hears of an empty response. -/
theorem sighted_settled {request : Request W} {use : Use W} {w : W} {earlier later : List Sight}
    {headers : Http.Headers}
    (h : (((b.sighted wire).pipeline wire').call request.noted use.noted ⟨w, []⟩).1.notes
      = earlier ++ .arrived 404 headers :: later) :
    ∃ status headers', (((b.sighted wire).pipeline wire').call request.noted use.noted ⟨w, []⟩).2
        = .response status headers' (use.takes b.endpoint.arity (Sight.yielded earlier)) ∧
      (Sight.yielded earlier = [] → status = 200 ∧ headers' = headers ∧ later = b.reports headers) ∧
      (Sight.yielded earlier ≠ [] → b.endpoint.arity = .flux ∧ later = []) := by
  have hcalled := b.sighted_called wire wire' request use w
  have htakes : ∀ js, (use.noted (E := Sight)).takes b.endpoint.arity js = use.takes b.endpoint.arity js := by
    intro js
    cases use <;> rfl
  have hreports : ∀ headers, (b.reports headers).all (!·.isNotFound) := by
    intro headers
    rw [reports]
    cases b.listener <;> rfl
  generalize ((b.sighted wire).pipeline wire').call request.noted use.noted ⟨w, []⟩ = called at hcalled h
  cases hcalled with
  | found js hread =>
    obtain ⟨es, hnotes, -, hes⟩ := hread
    -- nothing was missing
    rw [hnotes, List.nil_append] at h
    have hmissing := List.all_eq_true.mp hes (.arrived 404 headers) (by rw [h]; simp)
    cases hmissing
  | missing hmissed hv =>
    obtain ⟨u, ⟨es, hu, hfinds, hes⟩, hnotes⟩ := hmissed
    rw [hv, hnotes, hu, List.nil_append, List.append_assoc] at h
    obtain ⟨rfl, hheaders, rfl⟩ := split_unique hes (hreports _) rfl h
    cases hheaders
    refine ⟨200, _, by rw [htakes, hfinds], fun _ => ⟨rfl, rfl, rfl⟩, fun hne => absurd hfinds hne⟩
  | ended status headers' hmissed hjs =>
    obtain ⟨u, ⟨es, hu, hfinds, hes⟩, hnotes⟩ := hmissed
    rw [hnotes, hu, List.nil_append] at h
    obtain ⟨rfl, -, rfl⟩ := split_unique hes rfl rfl h
    exact ⟨status, headers', by rw [htakes, hfinds], fun hnil => absurd (hfinds.symm.trans hnil) hjs.2, fun _ => ⟨hjs.1, rfl⟩⟩

end Blueprint

/-- A client that takes what is not found for empty, whatever its other parts do: an answer that nothing was
    found ends the call. No rule decodes a failure of it, its body is not asked for, the policy does not
    hear of it, and nothing more is sent. If nothing has been read before, the caller has status 200, the
    headers of the answer and no element, and that is what a listener hears; else the body ends with the
    elements so far. A method with one result has none then, and a method with many has the elements so
    far. That the parts write notes changes nothing of what the caller has. -/
theorem not_found_is_empty {α : Type} (wire : Wire W) (wire' : Wire (Noted W Sight)) (b : Blueprint W)
    (request : Request W) (w₀ w : W) :
    let client := (Blueprint.build wire (.decode404 { b with mappers := [] }) w₀).2
    let watched (use : Use W) := ((b.sighted wire).pipeline wire').call request.noted use.noted ⟨w, []⟩
    (∀ use, (watched use).1.world = (client.pipeline.call request use w).1 ∧
      (watched use).2 = (client.pipeline.call request use w).2 ∧
      ∀ earlier headers later, (watched use).1.notes = earlier ++ .arrived 404 headers :: later →
        ∃ status headers', (client.pipeline.call request use w).2
            = .response status headers' (use.takes b.endpoint.arity (Sight.yielded earlier)) ∧
          (Sight.yielded earlier = [] → status = 200 ∧ headers' = headers ∧
            later = b.listener.toList.map fun _ => .reported 200 headers) ∧
          (Sight.yielded earlier ≠ [] → b.endpoint.arity = .flux ∧ later = [])) ∧
    (∀ (d : Json.Decoder α), b.endpoint.arity = .mono → ∀ earlier headers later,
      (watched .first).1.notes = earlier ++ .arrived 404 headers :: later →
        (client.mono d request w).2 = .ok none) ∧
    (∀ (d : Json.Decoder α) reader, b.endpoint.arity = .flux → ∀ earlier headers later,
      (watched (.body (reader.comap (Client.typed d)))).1.notes = earlier ++ .arrived 404 headers :: later →
        (client.read d request reader w).2
          = .ok ⟨(Sight.yielded earlier).map fun j => Client.typed d (.ok j), false⟩) := by
  intro client watched
  have hplain : ∀ use, (watched use).1.world = (client.pipeline.call request use w).1 ∧
      (watched use).2 = (client.pipeline.call request use w).2 := by
    intro use
    have halike := (b.sighted_alike wire wire').pipeline Noted.ambient_alike fun r r' h => by
      cases h
      exact ⟨rfl, rfl⟩
    exact halike.call (Request.plain_noted request) use.noted_alike (v := ⟨w, []⟩) rfl
  have hsettled : ∀ use earlier headers later,
      (watched use).1.notes = earlier ++ .arrived 404 headers :: later →
      ∃ status headers', (client.pipeline.call request use w).2
          = .response status headers' (use.takes b.endpoint.arity (Sight.yielded earlier)) ∧
        (Sight.yielded earlier = [] → status = 200 ∧ headers' = headers ∧ later = b.reports headers) ∧
        (Sight.yielded earlier ≠ [] → b.endpoint.arity = .flux ∧ later = []) := by
    intro use earlier headers later h
    rw [← (hplain use).2]
    exact b.sighted_settled wire wire' h
  refine ⟨fun use => ⟨(hplain use).1, (hplain use).2, hsettled use⟩, fun d hmono earlier headers later h => ?_,
    fun d reader hflux earlier headers later h => ?_⟩
  · obtain ⟨status, headers', hreceipt, -, hmid⟩ := hsettled _ _ _ _ h
    -- with one result nothing is tried again behind the first element
    have hnone : Sight.yielded earlier = [] := by
      by_contra hne
      rw [hmono] at hmid
      cases (hmid hne).1
    rw [hnone] at hreceipt
    have hcall : client.pipeline.call request .first w
        = ((client.pipeline.call request .first w).1, .response status headers' (.items ⟨[], false⟩)) :=
      Prod.ext rfl hreceipt
    rw [client.mono_of_call d request hmono hcall]
  · obtain ⟨status, headers', hreceipt, -⟩ := hsettled _ _ _ _ h
    have hcall : client.pipeline.call request (.body (reader.comap (Client.typed d))) w
        = ((client.pipeline.call request (.body (reader.comap (Client.typed d))) w).1,
          .response status headers' (.items ⟨(Sight.yielded earlier).map .ok, false⟩)) :=
      Prod.ext rfl hreceipt
    rw [client.read_of_call d request hflux reader hcall, Got.map, List.map_map]
    rfl

open Rehearsal in
/-- The first attempt breaks behind its only element, the second finds nothing. The policy would allow a
    third one. -/
example :
    let b : Blueprint Stage := { Blueprint.ofEndpoint ⟨"notes", .flux⟩ with
      transport := some scripted, policy := some (Retry.BasicPolicy.transient 2).toPolicy }
    let stage := Stage.ofScript [
      ⟨.items 200 [] (.ok []) [.ok (.ofNat 1), .error (.transport .connect "reset")], .zero, true⟩,
      ⟨.items 404 [] (.ok []) [.ok (.ofNat 2)], .zero, true⟩,
      ⟨.items 200 [] (.ok []) [.ok (.ofNat 3)], .zero, true⟩]
    let request := Request.make .get ⟨"http", none, false, "/", none, none⟩
    let result := ((b.sighted .deaf).pipeline .deaf).call request.noted (Use.toEnd fun _ => id).noted ⟨stage, []⟩
    result.1.notes.map Sight.isNotFound = List.replicate 9 false ++ [true] ∧
      (Sight.yielded result.1.notes).map Json.toBytes = [[49]] ∧ result.2.failure? = none := by
  decide +kernel

end Courier
