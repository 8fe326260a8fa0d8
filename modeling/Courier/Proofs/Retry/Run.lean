import Courier.Retry.Exchange

/-! Calls with retries, one step at a time.

    A call moves between phases: an attempt is due, its body is being read, the policy is being asked
    about a failure, the call is over, or it waits for what never comes. Each step leaves marks.
    Correctness of the code is that it takes such steps and no others: what attempts lead to follows a path
    through the phases (`run_follows`), and so does the body that is spliced together from several attempts
    (`elements_serves`). -/

namespace Courier.Retry

variable {W : Type}

/-! ### One answer of a policy -/

/-- What a policy says when it is asked once, and how the conversation stands then. It may have no answer
    left, or wait for a failure when there is none. -/
inductive Answer (W : Type) where
  | granted (after : W) (rest : Session W) (queue : List Failure)
  | declined (after : W) (failure : Failure)
  | silent (after : W)
  | never (after : W)

/-- The next answer of a session, `queue` holding the failures it has not taken yet. -/
def Session.consult : Session W → List Failure → W → Answer W
  | .closed, _, w => .silent w
  | .await _, [], w => .never w
  | .await next, e :: queue, w => consult (next e) queue w
  | .perform effect rest, queue, w => consult (rest (effect w)) queue (effect w)
  | .answer (.error e) _, _, w => .declined w e
  | .answer (.ok ()) rest, queue, w => .granted w rest queue

/-! ### Phases and steps -/

/-- What a step leaves behind. -/
inductive Mark where
  | sent
  | arrived (status : Nat) (headers : Http.Headers)
  | delivered (element : Json)
  | finished
  | failed (failure : Failure)
  | stalled
  | granted (retry : Nat) (failure : Failure)
  | declined (failure : Failure)
  | closed

/-- Whether an attempt got so far that its response can be handed out. -/
def Mark.yields : Mark → Bool
  | .delivered _ => true
  | .finished => true
  | _ => false

/-- The element that was delivered. -/
def Mark.element? : Mark → Option Json
  | .delivered j => some j
  | _ => none

/-- The elements that were delivered. -/
def elements (ms : List Mark) : List Json := ms.filterMap Mark.element?

/-- Where a call stands. `queue` holds the failures that the policy has not taken, `retries` counts the
    attempts it has allowed. The call is stalled if an attempt never goes on, and unanswered if the policy
    never answers. -/
inductive Phase (W : Type) where
  | due (session : Session W) (queue : List Failure) (retries : Nat)
  | reading (items : Stream W (Except Failure Json)) (session : Session W) (queue : List Failure)
      (retries : Nat)
  | asking (session : Session W) (queue : List Failure) (last : Failure) (retries : Nat)
  | complete
  | failed (failure : Failure)
  | stalled
  | unanswered

/-- Whether nothing will ever come of the call. -/
def Phase.waits : Phase W → Bool
  | .stalled => true
  | .unanswered => true
  | _ => false

/-- The caller may act while nothing is under way on its behalf. -/
def Phase.idle : Phase W → Prop
  | .due _ _ _ => False
  | .asking _ _ _ _ => False
  | _ => True

theorem Phase.idle_of_waits : ∀ {s : Phase W}, s.waits → s.idle
  | .stalled, _ => trivial
  | .unanswered, _ => trivial

variable [Ambient W]

/-- One step of a call; `acts` says what the caller may do to the surroundings. -/
inductive Turn (acts : W → W → Prop) (a : Attempts W) : W → Phase W → List Mark → W → Phase W → Prop
  | refuse {w w' session queue n e} : a.inner.execute a.request w = (w', .error e) →
      Turn acts a w (.due session queue n) [.sent, .failed e] (report a n e w')
        (.asking session (queue ++ [e]) e n)
  | stall {w w' session queue n} : a.inner.execute a.request w = (w', .never) →
      Turn acts a w (.due session queue n) [.sent, .stalled] w' .stalled
  | arrive {w w₁ w' session queue n r items} : a.inner.execute a.request w = (w₁, .ok r) →
      r.body w₁ = (w', items) →
      Turn acts a w (.due session queue n) [.sent, .arrived r.status r.headers] w'
        (.reading items session queue n)
  | deliver {w w' items more session queue n j} : items w = .item w' (.ok j) more →
      Turn acts a w (.reading items session queue n) [.delivered j] w' (.reading more session queue n)
  | finish {w w' items session queue n} : items w = .done w' →
      Turn acts a w (.reading items session queue n) [.finished] w' .complete
  | collapse {w w' items more session queue n e} : items w = .item w' (.error e) more →
      Turn acts a w (.reading items session queue n) [.failed e] (report a n e w')
        (.asking session (queue ++ [e]) e n)
  | dry {w w' items session queue n} : items w = .never w' →
      Turn acts a w (.reading items session queue n) [.stalled] w' .stalled
  | grant {w w' session rest queue queue' last n} : session.consult queue w = .granted w' rest queue' →
      Turn acts a w (.asking session queue last n) [.granted (n + 1) last]
        (a.listener.notify (.retryAttempt a.methodKey (n + 1) last) w') (.due rest queue' (n + 1))
  | decline {w w' session queue last n e} : session.consult queue w = .declined w' e →
      Turn acts a w (.asking session queue last n) [.declined e] w' (.failed e)
  | silence {w w' session queue last n} : session.consult queue w = .silent w' →
      Turn acts a w (.asking session queue last n) [.closed] w' (.failed last)
  | never {w w' session queue last n} : session.consult queue w = .never w' →
      Turn acts a w (.asking session queue last n) [] w' .unanswered
  | pause {w w' s} : s.idle → acts w w' → Turn acts a w s [] w' s

/-- Any number of steps, with all their marks. -/
inductive Path (acts : W → W → Prop) (a : Attempts W) : W → Phase W → List Mark → W → Phase W → Prop
  | stay {w s} : Path acts a w s [] w s
  | step {w s ms w₁ s₁ ms' w' s'} : Turn acts a w s ms w₁ s₁ → Path acts a w₁ s₁ ms' w' s' →
      Path acts a w s (ms ++ ms') w' s'

namespace Path

variable {acts : W → W → Prop} {a : Attempts W} {w w₁ w' : W} {s s₁ s' : Phase W} {ms ms' : List Mark}

theorem single (h : Turn acts a w s ms w' s') : Path acts a w s ms w' s' := by
  simpa using Path.step h .stay

theorem trans (h : Path acts a w s ms w₁ s₁) (h' : Path acts a w₁ s₁ ms' w' s') :
    Path acts a w s (ms ++ ms') w' s' := by
  induction h with
  | stay => exact h'
  | step ht _ ih => rw [List.append_assoc]; exact .step ht (ih h')

/-- What every step keeps, a path keeps; `seen` are the marks so far. -/
theorem keeps {I : List Mark → W → Phase W → Prop}
    (hstep : ∀ {seen w s ms w' s'}, Turn acts a w s ms w' s' → I seen w s → I (seen ++ ms) w' s')
    (h : Path acts a w s ms w' s') (seen : List Mark) (hi : I seen w s) : I (seen ++ ms) w' s' := by
  induction h generalizing seen with
  | stay => simpa using hi
  | step ht _ ih => rw [← List.append_assoc]; exact ih _ (hstep ht hi)

/-- Behind the end of a body nothing happens. -/
theorem of_complete (h : Path acts a w .complete ms w' s') : ms = [] ∧ s' = .complete := by
  generalize hs : (Phase.complete : Phase W) = s at h
  induction h with
  | stay => exact ⟨rfl, rfl⟩
  | step ht _ ih =>
    subst hs
    cases ht with
    | pause => exact ih rfl

end Path

/-! ### Attempts follow a path -/

variable {acts : W → W → Prop} {a : Attempts W}

/-- What is seen of a response that is handed out. -/
def Primed.marks (p : Primed W) : List Mark :=
  [.arrived p.status p.headers, p.first.elim .finished .delivered]

/-- Where a call stands whose response is handed out. -/
def Primed.phase (p : Primed W) (session : Session W) (queue : List Failure) (n : Nat) : Phase W :=
  p.first.elim .complete fun _ => .reading p.rest session queue n

omit [Ambient W] in
theorem Primed.phase_idle (p : Primed W) (session : Session W) (queue : List Failure) (n : Nat) :
    (p.phase session queue n).idle := by
  rw [phase]
  cases p.first <;> trivial

/-- The outcome is one that a path from the given phase leads to. Up to a response that is handed out no
    attempt has delivered anything; whenever the body fails later, what follows is a path again. -/
def Outcome.Follows (acts : W → W → Prop) (a : Attempts W) : Outcome W → W → Phase W → Prop
  | .failed w' e, w, s => ∃ ms, Path acts a w s ms w' (.failed e) ∧ ms.all (!·.yields)
  | .never w', w, s => ∃ ms s', Path acts a w s ms w' s' ∧ s'.waits ∧ ms.all (!·.yields)
  | .primed w' p resume, w, s => ∃ ms session queue n, ms.all (!·.yields) ∧
      Path acts a w s (ms ++ p.marks) w' (p.phase session queue n) ∧
      (p.first = none → p.rest = .empty) ∧
      ∀ e v, (resume e v).Follows acts a (report a n e v) (.asking session (queue ++ [e]) e n)

theorem Outcome.Follows.prepend {o : Outcome W} {w w₁ : W} {s s₁ : Phase W} {pre : List Mark}
    (h : Path acts a w s pre w₁ s₁) (hpre : pre.all (!·.yields)) (ho : o.Follows acts a w₁ s₁) :
    o.Follows acts a w s := by
  cases o with
  | failed w' e =>
    obtain ⟨ms, hp, hms⟩ := ho
    exact ⟨pre ++ ms, h.trans hp, by simp [hpre, hms]⟩
  | never w' =>
    obtain ⟨ms, s', hp, hwaits, hms⟩ := ho
    exact ⟨pre ++ ms, s', h.trans hp, hwaits, by simp [hpre, hms]⟩
  | primed w' p resume =>
    obtain ⟨ms, session, queue, n, hms, hp, hr⟩ := ho
    refine ⟨pre ++ ms, session, queue, n, by simp [hpre, hms], ?_, hr⟩
    rw [List.append_assoc]
    exact h.trans hp

/-- An attempt that is due leads to a response, or to the next question for the policy. -/
theorem follows_of_due {session : Session W} {queue : List Failure} {n : Nat} (w : W)
    (resume : Failure → W → Outcome W)
    (hr : ∀ e v, (resume e v).Follows acts a (report a n e v) (.asking session (queue ++ [e]) e n)) :
    (match prime a.inner a.request w with
      | (w', .ok p) => Outcome.primed w' p resume
      | (w', .error e) => resume e w'
      | (w', .never) => .never w').Follows acts a w (.due session queue n) := by
  rw [prime]
  rcases hx : a.inner.execute a.request w with ⟨w₁, e | r | _⟩
  · exact (hr e w₁).prepend (.single (.refuse hx)) rfl
  · rcases hb : r.body w₁ with ⟨w₂, items⟩
    have harrive : Turn acts a w (.due session queue n) [.sent, .arrived r.status r.headers] w₂
        (.reading items session queue n) := .arrive hx hb
    simp only [hb]
    cases hi : items w₂ with
    | done w' =>
      have hp := Path.step harrive (.single (.finish hi))
      exact ⟨[.sent], session, queue, n, rfl, hp, fun _ => rfl, hr⟩
    | item w' item more =>
      cases item with
      | ok j =>
        have hp := Path.step harrive (.single (.deliver hi))
        exact ⟨[.sent], session, queue, n, rfl, hp, nofun, hr⟩
      | error e => exact (hr e w').prepend (.step harrive (.single (.collapse hi))) rfl
    | never w' => exact ⟨_, _, .step harrive (.single (.dry hi)), rfl, rfl⟩
  · exact ⟨_, _, .single (.stall hx), rfl, rfl⟩

/-- While a policy thinks, the phase differs only in what it has taken and done. -/
theorem Outcome.Follows.of_consult {session session' : Session W} {queue queue' : List Failure}
    {w w' : W} (h : session.consult queue w = session'.consult queue' w') {last : Failure} {n : Nat}
    {o : Outcome W} (ho : o.Follows acts a w' (.asking session' queue' last n)) :
    o.Follows acts a w (.asking session queue last n) := by
  have hturn : ∀ {ms v s}, Turn acts a w' (.asking session' queue' last n) ms v s →
      Turn acts a w (.asking session queue last n) ms v s := by
    intro ms v s ht
    cases ht with
    | grant hc => exact .grant (h.trans hc)
    | decline hc => exact .decline (h.trans hc)
    | silence hc => exact .silence (h.trans hc)
    | never hc => exact .never (h.trans hc)
    | pause hi _ => exact hi.elim
  -- a path from here to where the caller may act has a first step, and only that one has to be changed
  have hpath : ∀ {ms v s}, Path acts a w' (.asking session' queue' last n) ms v s → s.idle →
      Path acts a w (.asking session queue last n) ms v s := by
    intro ms v s hp hs
    cases hp with
    | stay => exact hs.elim
    | step ht hp => exact .step (hturn ht) hp
  cases o with
  | failed w₁ e =>
    obtain ⟨ms, hp, hms⟩ := ho
    exact ⟨ms, hpath hp trivial, hms⟩
  | never w₁ =>
    obtain ⟨ms, s', hp, hwaits, hms⟩ := ho
    exact ⟨ms, s', hpath hp (Phase.idle_of_waits hwaits), hwaits, hms⟩
  | primed w₁ p resume =>
    obtain ⟨ms, s, q, m, hms, hp, hr⟩ := ho
    exact ⟨ms, s, q, m, hms, hpath hp (p.phase_idle s q m), hr⟩

theorem converse_follows : ∀ (session : Session W) (queue : List Failure) (last : Failure) (n : Nat)
    (w : W), (converse a session queue last n w).Follows acts a w (.asking session queue last n)
  | .closed, queue, last, n, w => ⟨[.closed], .single (.silence rfl), rfl⟩
  | .await _, [], last, n, w => ⟨[], _, .single (.never rfl), rfl, rfl⟩
  -- taking a failure and acting on the surroundings are no steps of their own
  | .await next, e :: queue, last, n, w => by
    have hc : (Session.await next).consult (e :: queue) w = (next e).consult queue w := rfl
    rw [converse]
    exact (converse_follows (next e) queue last n w).of_consult hc
  | .perform effect rest, queue, last, n, w => by
    have hc : (Session.perform effect rest).consult queue w
        = (rest (effect w)).consult queue (effect w) := rfl
    rw [converse]
    exact (converse_follows (rest (effect w)) queue last n (effect w)).of_consult hc
  | .answer (.error e) rest, queue, last, n, w => ⟨[.declined e], .single (.decline rfl), rfl⟩
  | .answer (.ok ()) rest, queue, last, n, w => by
    rw [converse]
    refine (follows_of_due _ _ fun e v => ?_).prepend (.single (.grant rfl)) rfl
    exact converse_follows rest (queue ++ [e]) e (n + 1) (report a (n + 1) e v)

/-- All attempts of a call, up to a response that is handed out, follow a path. -/
theorem run_follows (policy : Policy W) (w : W) :
    (run a policy w).Follows acts a (policy.opening w).1 (.due (policy.opening w).2 [] 0) :=
  follows_of_due _ _ fun e v => converse_follows (policy.opening w).2 [e] e 0 (report a 0 e v)

/-! ### Bodies follow a path -/

/-- Each item is one that a path from the given phase leads to, and nothing follows a failure. If there is no
    answer, the path leads to where nothing comes of the call. -/
def Serves (acts : W → W → Prop) (a : Attempts W) :
    Step W (Except Failure Json) → W → Phase W → Prop
  | .done w', w, s => ∃ ms, Path acts a w s ms w' .complete ∧ elements ms = []
  | .item w' (.error e) more, w, s =>
    (∃ ms, Path acts a w s ms w' (.failed e) ∧ elements ms = []) ∧ more = Stream.empty
  | .item w' (.ok j) more, w, s => ∃ ms items session queue n,
      Path acts a w s ms w' (.reading items session queue n) ∧ elements ms = [j] ∧
      ∀ v, Serves acts a (more v) v (.reading items session queue n)
  | .never w', w, s => ∃ ms s', Path acts a w s ms w' s' ∧ s'.waits ∧ elements ms = []

theorem elements_append (ms ms' : List Mark) : elements (ms ++ ms') = elements ms ++ elements ms' :=
  List.filterMap_append

theorem elements_of_not_yields {ms : List Mark} (h : ms.all (!·.yields)) : elements ms = [] := by
  rw [elements, List.filterMap_eq_nil_iff]
  intro m hm
  have hy := List.all_eq_true.mp h m hm
  cases m <;> simp_all [Mark.yields, Mark.element?]

omit [Ambient W] in
theorem Primed.elements_marks (p : Primed W) {ms : List Mark} (h : ms.all (!·.yields)) :
    elements (ms ++ p.marks) = p.first.toList := by
  rw [elements_append, elements_of_not_yields h, marks]
  cases p.first <;> rfl

theorem Serves.prepend {t : Step W (Except Failure Json)} {w w₁ : W} {s s₁ : Phase W}
    {pre : List Mark} (h : Path acts a w s pre w₁ s₁) (hpre : elements pre = [])
    (ht : Serves acts a t w₁ s₁) : Serves acts a t w s := by
  match t, ht with
  | .done w', ⟨ms, hp, hms⟩ => exact ⟨pre ++ ms, h.trans hp, by simp [elements_append, hpre, hms]⟩
  | .item w' (.error e) more, ⟨⟨ms, hp, hms⟩, hmore⟩ =>
    exact ⟨⟨pre ++ ms, h.trans hp, by simp [elements_append, hpre, hms]⟩, hmore⟩
  | .item w' (.ok j) more, ⟨ms, items, session, queue, n, hp, hms, hmore⟩ =>
    exact ⟨pre ++ ms, items, session, queue, n, h.trans hp, by simp [elements_append, hpre, hms], hmore⟩
  | .never w', ⟨ms, s', hp, hwaits, hms⟩ =>
    exact ⟨pre ++ ms, s', h.trans hp, hwaits, by simp [elements_append, hpre, hms]⟩

/-- The rest of an attempt's body, and what follows its failure. -/
theorem splice_serves {session : Session W} {queue : List Failure} {n : Nat}
    (resumed : Failure → W → Step W (Except Failure Json))
    (hr : ∀ e v, Serves acts a (resumed e v) (report a n e v) (.asking session (queue ++ [e]) e n))
    (t : Step W (Except Failure Json)) : ∀ (items : Stream W (Except Failure Json)) (w : W),
      items w = t → Serves acts a (splice resumed t) w (.reading items session queue n) := by
  induction t with
  | done w' => exact fun items w hi => ⟨[.finished], .single (.finish hi), rfl⟩
  | never w' => exact fun items w hi => ⟨[.stalled], _, .single (.dry hi), rfl, rfl⟩
  | item w' item more ih =>
    intro items w hi
    cases item with
    | error e => exact (hr e w').prepend (.single (.collapse hi)) rfl
    | ok j =>
      exact ⟨[.delivered j], more, session, queue, n, .single (.deliver hi), rfl,
        fun v => ih v more v rfl⟩

theorem elements_serves : ∀ (o : Outcome W) {w : W} {s : Phase W}, o.Follows acts a w s →
    Serves acts a o.elements w s
  | .failed w' e, w, s, ⟨ms, hp, hms⟩ => ⟨⟨ms, hp, elements_of_not_yields hms⟩, rfl⟩
  | .never w', w, s, ⟨ms, s', hp, hwaits, hms⟩ => ⟨ms, s', hp, hwaits, elements_of_not_yields hms⟩
  | .primed w' p resume, w, s, ⟨ms, session, queue, n, hms, hp, hrest, hr⟩ => by
    have hresumed : ∀ e v, Serves acts a (resume e v).elements (report a n e v)
        (.asking session (queue ++ [e]) e n) := fun e v => elements_serves (resume e v) (hr e v)
    have hms := p.elements_marks hms
    rw [Outcome.elements]
    cases hf : p.first with
    | some j =>
      rw [Primed.phase, hf] at hp
      rw [hf] at hms
      exact ⟨_, p.rest, session, queue, n, hp, hms, fun v => splice_serves _ hresumed _ _ _ rfl⟩
    | none =>
      rw [Primed.phase, hf] at hp
      rw [hf] at hms
      rw [hrest hf]
      exact ⟨_, hp, hms⟩

end Courier.Retry
