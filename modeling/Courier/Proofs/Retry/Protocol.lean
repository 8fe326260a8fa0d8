import Courier.Proofs.Alike.Retry
import Courier.Proofs.Noted
import Courier.Proofs.Retry.History

/-! What the parts of a call with retries see of each other.

    The policy, the exchange behind it and the listener note what they do. Whoever they are, the notes
    tell a history of attempts, and the policy hears of each failure once and in order
    (`call_protocol`). -/

namespace Courier.Retry

variable {W : Type}

/-! ### Notes -/

/-- What is written down: by a policy that it was opened, reached for a failure, took it, gave an answer or
    had none left; by an exchange what it was sent and what came of it, or that it will never go on; by a
    listener what it was told. -/
inductive Event (W : Type) where
  | opened
  | sent (request : Request W)
  | arrived (status : Nat) (headers : Http.Headers)
  | delivered (element : Json)
  | finished
  | failed (failure : Failure)
  | stalled
  | reached
  | took (failure : Failure)
  | ended
  | answered (verdict : Except Failure Unit)
  | told (notice : Notice W)

/-- Whether others can see it; how a policy comes to an answer they cannot. -/
def Event.shows : Event W → Bool
  | .reached => false
  | .took _ => false
  | _ => true

/-- Whether an attempt starts. -/
def Event.isSent : Event W → Bool
  | .sent _ => true
  | _ => false

/-- Whether another attempt is allowed. -/
def Event.isGranted : Event W → Bool
  | .answered (.ok ()) => true
  | _ => false

/-- What an exchange writes down for each item. -/
def Event.ofItem : Except Failure Json → List (Event W)
  | .ok j => [.delivered j]
  | .error e => [.failed e]

/-- What an exchange writes down. -/
def scribe : Scribe W (Event W) where
  sent request := [.sent request]
  refused e := [.failed e]
  arrived status headers := [.arrived status headers]
  item := Event.ofItem
  ending := [.finished]
  stall := [.stalled]

/-- A session that notes what it does. -/
def Session.noted : Session W → Session (Noted W (Event W))
  | .closed => .perform (·.write [.ended]) fun _ => .closed
  | .await next => .perform (·.write [.reached]) fun _ => .await fun e =>
    .perform (·.write [.took e]) fun _ => (next e).noted
  | .perform effect rest => .perform (Noted.act effect) fun v => (rest v.world).noted
  | .answer verdict rest => .perform (·.write [.answered verdict]) fun _ => .answer verdict rest.noted

/-- A policy whose sessions note what they do. -/
def Policy.noted (p : Policy W) : Policy (Noted W (Event W)) where
  name := p.name
  opening := fun v => match p.opening v.world with
    | (w, session) => (⟨w, v.notes ++ [.opened]⟩, session.noted)

theorem Session.noted_alike : ∀ s : Session W, Session.Alike Noted.Over s.noted s
  | .closed => .aside (fun _ _ h => h) fun _ => .closed
  | .await next => .aside (fun _ _ h => h) fun _ => .await fun e =>
    .aside (fun _ _ h => h) fun _ => noted_alike (next e)
  | .perform effect rest => by
    refine .perform (fun v w h => congrArg effect h) fun v w h => ?_
    cases h
    exact noted_alike (rest v.world)
  | .answer verdict rest => .aside (fun _ _ h => h) fun _ => .answer (noted_alike rest)

theorem Policy.noted_alike (p : Policy W) : Policy.Alike Noted.Over p.noted p := by
  intro v w h
  cases h
  exact ⟨rfl, Session.noted_alike _⟩

/-- The notes of a mark. -/
def Mark.events (methodKey : String) (request : Request W) : Mark → List (Event W)
  | .sent => [.sent request]
  | .arrived status headers => [.arrived status headers]
  | .delivered j => [.delivered j]
  | .finished => [.finished]
  | .failed e => [.failed e]
  | .granted n e => [.answered (.ok ()), .told (.retryAttempt methodKey n e)]
  | .declined e => [.answered (.error e)]
  | .stalled => [.stalled]
  | .closed => [.ended]

/-! ### What a policy hears -/

/-- What a policy has to hear next. Between questions it rests; `queue` are the failures it has not taken.
    When it reaches for a failure it gets the oldest one, and if there is none it waits for good. It is gone
    once it has declined or has no answer left. -/
inductive Ear where
  | resting (queue : List Failure)
  | asked (queue : List Failure)
  | reaching (failure : Failure) (queue : List Failure)
  | waiting
  | gone
  | confused

/-- One more note. Each failure asks for one answer; before the first failure, between an answer and the
    next failure, and after a declining answer the policy is left alone. -/
def Ear.hear : Ear → Event W → Ear
  | .resting queue, .failed e => .asked (queue ++ [e])
  | .resting _, .reached => .confused
  | .resting _, .took _ => .confused
  | .resting _, .ended => .confused
  | .resting _, .answered _ => .confused
  | .resting queue, _ => .resting queue
  | .asked queue, .reached => match queue with
    | [] => .waiting
    | e :: queue => .reaching e queue
  | .asked queue, .answered (.ok ()) => .resting queue
  | .asked _, .answered (.error _) => .gone
  | .asked _, .ended => .gone
  | .reaching e queue, .took e' => if e' = e then .asked queue else .confused
  | _, _ => .confused

/-- What a policy has to hear after all notes. -/
def heard (log : List (Event W)) : Ear := log.foldl Ear.hear (.resting [])

/-- No question is open that the policy still can answer. -/
def Ear.settled : Ear → Prop
  | .resting _ => True
  | .waiting => True
  | .gone => True
  | _ => False

/-- How the last attempt leaves the policy: gone if it has given up, waiting if it never answers, else at
    rest. -/
def Ending.leaves : Ending → Ear → Prop
  | .failed _ _, ear => ear = .gone
  | .unanswered _, ear => ear = .waiting
  | _, ear => ∃ queue, ear = .resting queue

theorem Ending.settled_of_leaves : ∀ {x : Ending} {ear : Ear}, x.leaves ear → ear.settled
  | .failed _ _, _, rfl => trivial
  | .unanswered _, _, rfl => trivial
  | .reading _, _, ⟨_, rfl⟩ => trivial
  | .finished _, _, ⟨_, rfl⟩ => trivial
  | .stalled _, _, ⟨_, rfl⟩ => trivial

theorem heard_append (log log' : List (Event W)) : heard (log ++ log') = log'.foldl Ear.hear (heard log) :=
  List.foldl_append

/-- However a policy comes to an answer, it takes the oldest failures first and gives one answer. -/
theorem consult_noted : ∀ (s : Session W) (queue : List Failure) (v : Noted W (Event W)),
    ∃ talk : List (Event W), talk.filter Event.shows = [] ∧ match s.noted.consult queue v with
      | .granted v' rest queue' => v'.notes = v.notes ++ (talk ++ [.answered (.ok ())]) ∧
        (∃ s' : Session W, rest = s'.noted) ∧ talk.foldl Ear.hear (.asked queue) = .asked queue'
      | .declined v' e => v'.notes = v.notes ++ (talk ++ [.answered (.error e)]) ∧
        ∃ queue', talk.foldl Ear.hear (.asked queue) = .asked queue'
      | .silent v' => v'.notes = v.notes ++ (talk ++ [.ended]) ∧
        ∃ queue', talk.foldl Ear.hear (.asked queue) = .asked queue'
      | .never v' => v'.notes = v.notes ++ talk ∧ talk.foldl Ear.hear (.asked queue) = .waiting
  | .closed, queue, v => ⟨[], rfl, rfl, queue, rfl⟩
  | .await _, [], v => ⟨[.reached], rfl, rfl, rfl⟩
  | .await next, e :: queue, v => by
    obtain ⟨talk, htalk, ih⟩ := consult_noted (next e) queue ((v.write [.reached]).write [.took e])
    have hear : ([.reached, .took e] : List (Event W)).foldl Ear.hear (.asked (e :: queue)) = .asked queue := by
      simp [Ear.hear]
    have hc : (Session.await next).noted.consult (e :: queue) v
        = (next e).noted.consult queue ((v.write [.reached]).write [.took e]) := rfl
    refine ⟨[.reached, .took e] ++ talk, htalk, ?_⟩
    rw [hc]
    rw [List.foldl_append, hear]
    have hnotes : ((v.write [.reached]).write [.took e]).notes = v.notes ++ [.reached, .took e] :=
      List.append_assoc _ _ _
    rw [hnotes] at ih
    simpa only [List.append_assoc] using ih
  | .perform effect rest, queue, v => consult_noted (rest (effect v.world)) queue (v.act effect)
  | .answer (.error e) rest, queue, v => ⟨[], rfl, rfl, queue, rfl⟩
  | .answer (.ok ()) rest, queue, v => ⟨[], rfl, rfl, ⟨rest, rfl⟩, rfl⟩

/-! ### Paths of parts that note what they do -/

theorem report_notes [Ambient W] (a : Attempts (Noted W (Event W))) (n : Nat) (e : Failure)
    (v : Noted W (Event W)) : (report a n e v).notes = v.notes := rfl

/-- What the phase says of the notes so far: who is asked, and that all parts note what they do. -/
def Fits (v : Noted W (Event W)) : Phase (Noted W (Event W)) → Prop
  | .due session queue _ => (∃ s : Session W, session = s.noted) ∧ heard v.notes = .resting queue
  | .reading items session queue _ =>
    (∃ x : Stream W (Except Failure Json), items = Stream.noted Event.ofItem [.finished] [.stalled] x) ∧
      (∃ s : Session W, session = s.noted) ∧ heard v.notes = .resting queue
  | .asking session queue _ _ => (∃ s : Session W, session = s.noted) ∧ heard v.notes = .asked queue
  | .complete => ∃ queue, heard v.notes = .resting queue
  | .failed _ => heard v.notes = .gone
  | .stalled => ∃ queue, heard v.notes = .resting queue
  | .unanswered => heard v.notes = .waiting

/-- The notes are those of the marks so far, apart from what only the policy sees. -/
structure Kept (methodKey : String) (request : Request W) (seen : List Mark) (v : Noted W (Event W))
    (s : Phase (Noted W (Event W))) : Prop where
  shown : v.notes.filter Event.shows = .opened :: seen.flatMap (Mark.events methodKey request)
  fits : Fits v s

variable [Ambient W] {methodKey : String} {request : Request W} {listener : Listener W}
  {inner : Exchange W}

/-- The attempts of parts that note what they do. -/
abbrev notedAttempts (methodKey : String) (listener : Listener W) (inner : Exchange W)
    (request : Request W) : Attempts (Noted W (Event W)) :=
  ⟨methodKey, listener.noted fun n => [.told n], inner.noted scribe, request.noted⟩

omit [Ambient W] in
/-- A step adds notes; they have to be those of its marks, and the phase has to fit them. -/
theorem Kept.extend {seen ms : List Mark} {v v' : Noted W (Event W)} {s s' : Phase (Noted W (Event W))}
    {more : List (Event W)} (h : Kept methodKey request seen v s) (hnotes : v'.notes = v.notes ++ more)
    (hmore : more.filter Event.shows = ms.flatMap (Mark.events methodKey request)) (hfits : Fits v' s') :
    Kept methodKey request (seen ++ ms) v' s' :=
  ⟨by rw [hnotes, List.filter_append, h.shown, hmore, List.flatMap_append]; rfl, hfits⟩

theorem kept_turn {seen ms : List Mark} {v v' : Noted W (Event W)} {s s' : Phase (Noted W (Event W))}
    (h : Turn (fun v v' => v'.notes = v.notes) (notedAttempts methodKey listener inner request) v s ms v' s')
    (hk : Kept methodKey request seen v s) : Kept methodKey request (seen ++ ms) v' s' := by
  have hfits := hk.fits
  -- for each kind of step: what it writes, and where that leaves the policy
  cases h with
  | refuse hx =>
    obtain ⟨hsession, hear⟩ := hfits
    have hnotes := Exchange.notes_of_error hx
    rw [Request.plain_noted] at hnotes
    refine hk.extend hnotes rfl ⟨hsession, ?_⟩
    rw [report_notes, hnotes, heard_append, hear]
    rfl
  | stall hx =>
    obtain ⟨-, hear⟩ := hfits
    have hnotes := Exchange.notes_of_never hx
    rw [Request.plain_noted] at hnotes
    have hear' : heard v'.notes = heard v.notes := by rw [hnotes, heard_append, hear]; rfl
    exact hk.extend hnotes rfl ⟨_, hear'.trans hear⟩
  | arrive hx hb =>
    obtain ⟨hsession, hear⟩ := hfits
    obtain ⟨hnotes, r, rfl⟩ := Exchange.notes_of_ok hx
    obtain ⟨hbody, items, rfl⟩ := Response.notes_of_body hb
    rw [Request.plain_noted, ← hbody] at hnotes
    refine hk.extend hnotes rfl ⟨⟨items, rfl⟩, hsession, ?_⟩
    rw [hnotes, heard_append, hear]
    rfl
  | deliver hi =>
    obtain ⟨⟨items, rfl⟩, hsession, hear⟩ := hfits
    obtain ⟨hnotes, hrest⟩ := Stream.notes_of_item hi
    refine hk.extend hnotes rfl ⟨hrest, hsession, ?_⟩
    rw [hnotes, heard_append, hear]
    rfl
  | finish hi =>
    obtain ⟨⟨items, rfl⟩, -, hear⟩ := hfits
    have hnotes := Stream.notes_of_done hi
    have hear' : heard v'.notes = heard v.notes := by rw [hnotes, heard_append, hear]; rfl
    exact hk.extend hnotes rfl ⟨_, hear'.trans hear⟩
  | collapse hi =>
    obtain ⟨⟨items, rfl⟩, hsession, hear⟩ := hfits
    obtain ⟨hnotes, -⟩ := Stream.notes_of_item hi
    refine hk.extend hnotes rfl ⟨hsession, ?_⟩
    rw [report_notes, hnotes, heard_append, hear]
    rfl
  | dry hi =>
    obtain ⟨⟨items, rfl⟩, -, hear⟩ := hfits
    have hnotes := Stream.notes_of_never hi
    have hear' : heard v'.notes = heard v.notes := by rw [hnotes, heard_append, hear]; rfl
    exact hk.extend hnotes rfl ⟨_, hear'.trans hear⟩
  | @grant w₁ _ _ _ queue' last n hc =>
    obtain ⟨⟨session, rfl⟩, hear⟩ := hfits
    obtain ⟨talk, htalk, hanswer⟩ := consult_noted session _ v
    rw [hc] at hanswer
    obtain ⟨hnotes, hrest, htook⟩ := hanswer
    -- how the policy came to its answer is hidden; the answer and the notice of it are not
    have htold := Listener.notify_noted (fun n => [.told n]) listener (.retryAttempt methodKey (n + 1) last) w₁
    rw [hnotes, List.append_assoc] at htold
    refine hk.extend htold (by rw [List.filter_append, List.filter_append, htalk]; rfl) ⟨hrest, ?_⟩
    rw [htold, heard_append, hear, List.foldl_append, List.foldl_append, htook]
    rfl
  | decline hc =>
    obtain ⟨⟨session, rfl⟩, hear⟩ := hfits
    obtain ⟨talk, htalk, hanswer⟩ := consult_noted session _ v
    rw [hc] at hanswer
    obtain ⟨hnotes, queue', htook⟩ := hanswer
    refine hk.extend hnotes (by rw [List.filter_append, htalk]; rfl) ?_
    rw [Fits, hnotes, heard_append, hear, List.foldl_append, htook]
    rfl
  | silence hc =>
    obtain ⟨⟨session, rfl⟩, hear⟩ := hfits
    obtain ⟨talk, htalk, hanswer⟩ := consult_noted session _ v
    rw [hc] at hanswer
    obtain ⟨hnotes, queue', htook⟩ := hanswer
    refine hk.extend hnotes (by rw [List.filter_append, htalk]; rfl) ?_
    rw [Fits, hnotes, heard_append, hear, List.foldl_append, htook]
    rfl
  | never hc =>
    obtain ⟨⟨session, rfl⟩, hear⟩ := hfits
    obtain ⟨talk, htalk, hanswer⟩ := consult_noted session _ v
    rw [hc] at hanswer
    obtain ⟨hnotes, htook⟩ := hanswer
    refine hk.extend hnotes htalk ?_
    rw [Fits, hnotes, heard_append, hear, htook]
  | pause _ ha =>
    refine hk.extend (by rw [ha, List.append_nil]) rfl ?_
    cases s <;> simpa only [Fits, ha] using hfits

/-! ### Whole calls -/

variable (policy : Policy W) (listener : Listener W) (endpoint : Endpoint) (inner : Exchange W)
  (request : Request W)

/-- A call whose parts note what they do. -/
def notedCall (use : Use W) (w : W) : Noted W (Event W) × Receipt :=
  (exchange policy.noted (listener.noted fun n => [.told n]) endpoint (inner.noted scribe)).call
    request.noted use.noted ⟨w, []⟩

/-- The notes of a call. -/
def transcript (use : Use W) (w : W) : List (Event W) :=
  (notedCall policy listener endpoint inner request use w).1.notes

/-- A call whose parts note what they do leads to the same surroundings and the same receipt as without
    notes. -/
theorem notedCall_plain (use : Use W) (w : W) :
    (notedCall policy listener endpoint inner request use w).1.world
        = ((exchange policy listener endpoint inner).call request use w).1 ∧
      (notedCall policy listener endpoint inner request use w).2
        = ((exchange policy listener endpoint inner).call request use w).2 := by
  have hlistener : (listener.noted fun n => [Event.told n]).Alike Noted.Over listener :=
    fun methodKey retry e => listener.notify_alike _ (.retryAttempt methodKey retry e)
  have hexchange := exchange_alike Noted.ambient_alike.toEffectsAlike policy.noted_alike hlistener endpoint
    (inner.noted_alike scribe)
  exact hexchange.call (Request.plain_noted request) use.noted_alike rfl

omit [Ambient W] in
theorem kept_start (w : W) : Kept endpoint.key request [] (policy.noted.opening ⟨w, []⟩).1
    (.due (policy.noted.opening ⟨w, []⟩).2 [] 0) := ⟨rfl, ⟨_, rfl⟩, rfl⟩

omit [Ambient W] in
theorem Fits.leaves {v : Noted W (Event W)} {s : Phase (Noted W (Event W))} {x : Ending} (h : Fits v s)
    (hends : s.Ends x) : x.leaves (heard v.notes) := by
  cases hends with
  | reading => exact ⟨_, h.2.2⟩
  | finished => exact h
  | failed => exact h
  | stalled => exact h
  | unanswered => exact h

/-- A path of parts that note what they do leaves the notes of a history. -/
theorem path_notes {ms : List Mark} {v : Noted W (Event W)} {s : Phase (Noted W (Event W))} (w : W)
    (hpath : Path (fun v v' => v'.notes = v.notes) (notedAttempts endpoint.key listener inner request)
      (policy.noted.opening ⟨w, []⟩).1 (.due (policy.noted.opening ⟨w, []⟩).2 [] 0) ms v s)
    (hidle : s.idle) : ∃ h : History, ms = h.marks ∧ s.Ends h.ending ∧
      v.notes.filter Event.shows = .opened :: h.marks.flatMap (Mark.events endpoint.key request) ∧
      h.ending.leaves (heard v.notes) := by
  have hkept := hpath.keeps (I := Kept endpoint.key request) kept_turn _ (kept_start policy endpoint request w)
  obtain ⟨h, rfl, hends⟩ := path_history hpath ⟨[], rfl, rfl⟩ hidle
  exact ⟨h, rfl, hends, hkept.shown, hkept.fits.leaves hends⟩

/-! ### How many attempts -/

section count

variable (key : String) (p : Event W → Bool)

omit [Ambient W]

/-- How many notes of some marks are of a kind. -/
def noteCount (ms : List Mark) : Nat := (ms.flatMap (Mark.events key request)).countP p

theorem noteCount_append (ms ms' : List Mark) : noteCount request key p (ms ++ ms')
    = noteCount request key p ms + noteCount request key p ms' := by
  rw [noteCount, List.flatMap_append, List.countP_append]
  rfl

theorem noteCount_delivered (h : ∀ j, p (.delivered j) = false) (js : List Json) :
    noteCount request key p (js.map .delivered) = 0 := by
  induction js with
  | nil => rfl
  | cons j js ih =>
    have hj : noteCount request key p [.delivered j] = 0 := by
      simp [noteCount, Mark.events, h]
    rw [List.map_cons, ← List.singleton_append, noteCount_append, hj, ih]

theorem Part.noteCount_marks (x : Part) : noteCount request key Event.isSent x.marks = 1 ∧
    noteCount request key Event.isGranted x.marks = 0 := by
  have hsplit : x.marks = [.sent, .arrived x.status x.headers] ++ x.elements.map .delivered := rfl
  rw [hsplit, noteCount_append, noteCount_append, noteCount_delivered, noteCount_delivered]
  · exact ⟨rfl, rfl⟩
  · exact fun _ => rfl
  · exact fun _ => rfl

theorem Trial.noteCount_marks (t : Trial) : noteCount request key Event.isSent t.marks = 1 ∧
    noteCount request key Event.isGranted t.marks = 0 := by
  rcases t with ⟨_ | x, e⟩
  · exact ⟨rfl, rfl⟩
  · obtain ⟨hsent, hgranted⟩ := x.noteCount_marks request key
    rw [marks, noteCount_append, noteCount_append]
    exact ⟨hsent, hgranted⟩

theorem Ending.noteCount_marks : ∀ x : Ending, noteCount request key Event.isSent x.marks = 1 ∧
    noteCount request key Event.isGranted x.marks = 0
  | .reading x => x.noteCount_marks request key
  | .finished x => by
    obtain ⟨hsent, hgranted⟩ := x.noteCount_marks request key
    rw [marks, noteCount_append, noteCount_append]
    exact ⟨hsent, hgranted⟩
  | .failed t answer => by
    obtain ⟨hsent, hgranted⟩ := t.noteCount_marks request key
    rw [marks, noteCount_append, noteCount_append, hsent, hgranted]
    cases answer <;> exact ⟨rfl, rfl⟩
  | .unanswered t => t.noteCount_marks request key
  | .stalled none => ⟨rfl, rfl⟩
  | .stalled (some x) => by
    obtain ⟨hsent, hgranted⟩ := x.noteCount_marks request key
    rw [marks, Option.elim_some, noteCount_append, noteCount_append]
    exact ⟨hsent, hgranted⟩

theorem noteCount_retried : ∀ (n : Nat) (ts : List Trial),
    noteCount request key Event.isSent (retried n ts) = ts.length ∧
      noteCount request key Event.isGranted (retried n ts) = ts.length
  | _, [] => ⟨rfl, rfl⟩
  | n, t :: ts => by
    obtain ⟨hsent, hgranted⟩ := t.noteCount_marks request key
    obtain ⟨ihsent, ihgranted⟩ := noteCount_retried (n + 1) ts
    have hsplit : retried n (t :: ts)
        = t.marks ++ ([.granted n t.failure] ++ retried (n + 1) ts) := rfl
    rw [hsplit, noteCount_append, noteCount_append, noteCount_append, noteCount_append, hsent, hgranted,
      ihsent, ihgranted, List.length_cons]
    have hone : noteCount request key Event.isSent [.granted n t.failure] = 0 ∧
      noteCount request key Event.isGranted [.granted n t.failure] = 1 := ⟨rfl, rfl⟩
    omega

/-- There is one attempt more than retries were allowed. -/
theorem History.noteCount_marks (h : History) : noteCount request key Event.isSent h.marks
    = noteCount request key Event.isGranted h.marks + 1 := by
  obtain ⟨hsent, hgranted⟩ := noteCount_retried request key 1 h.trials
  obtain ⟨hlast, hlast'⟩ := h.ending.noteCount_marks request key
  rw [marks, noteCount_append, noteCount_append, hsent, hgranted, hlast, hlast']

theorem countP_shows (h : ∀ x : Event W, p x → x.shows) (log : List (Event W)) :
    (log.filter Event.shows).countP p = log.countP p := by
  rw [List.countP_filter]
  refine List.countP_congr fun x _ => ?_
  simpa using h x

end count

/-- Whatever the policy, the exchange, the listener and the caller do: the policy is opened once, before
    the first attempt. What the parts show each other is a history of attempts, all with the request of
    the caller; each of them but the last has failed, and between its failure and the next attempt there
    are one permission and one notice of it, with its number among the retries of the call. The policy is
    asked for one answer to each failure and takes the failures in order. That the parts note what they
    do changes neither the surroundings nor what the caller has of the call. -/
theorem call_protocol (use : Use W) (w : W) :
    let noted := notedCall policy listener endpoint inner request use w
    let log := transcript policy listener endpoint inner request use w
    (noted.1.world, noted.2) = (exchange policy listener endpoint inner).call request use w ∧
    (∃ h : History, log.filter Event.shows
      = .opened :: h.marks.flatMap (Mark.events endpoint.key request)) ∧
    (heard log).settled ∧ log.countP Event.isSent = log.countP Event.isGranted + 1 := by
  intro noted log
  obtain ⟨hworld, hreceipt⟩ := notedCall_plain policy listener endpoint inner request use w
  obtain ⟨ms, s, hpath, hidle⟩ := call_path policy.noted (listener.noted fun n => [.told n]) endpoint
    (inner.noted scribe) request.noted use.noted_keeps ⟨w, []⟩
  obtain ⟨h, rfl, -, hshown, hleaves⟩ := path_notes policy listener endpoint inner request w hpath hidle
  refine ⟨Prod.ext hworld hreceipt, ⟨h, hshown⟩, h.ending.settled_of_leaves hleaves, ?_⟩
  have hcount := h.noteCount_marks request endpoint.key
  have hsent : ∀ x : Event W, x.isSent → x.shows := by intro x; cases x <;> simp [Event.isSent, Event.shows]
  have hgranted : ∀ x : Event W, x.isGranted → x.shows := by
    intro x; cases x <;> simp [Event.isGranted, Event.shows]
  have hlog := countP_shows Event.isSent hsent log
  have hlog' := countP_shows Event.isGranted hgranted log
  have hnotes : log.filter Event.shows = .opened :: h.marks.flatMap (Mark.events endpoint.key request) := hshown
  rw [← hlog, ← hlog', hnotes]
  exact hcount

end Courier.Retry
