import Courier.Proofs.Quiet
import Courier.Status.Faulted

/-! Failures that wait to be asked for.

    A faulted response has an owner, who may make handles on its failure, ask for the body in one form or
    the other, or let go of it; the handles may be awaited by anybody at any time. Nothing is decoded until
    one of them asks for the failure. What is decoded then is what everyone gets, or waits for if that never
    comes to an end, and nothing is decoded again (`failure_decoded_once`). -/

namespace Courier.Status

variable {W : Type}

/-! ### What is done with a faulted response -/

/-- What is done with a faulted response, or happens in the meantime. -/
inductive Deed (W : Type) where
  | handle
  | await (handle : Nat)
  | body
  | pull
  | data
  | drop
  | meanwhile (effect : W → W)

/-- What comes of it; `waiting` if who did it waits for good. -/
inductive Gain where
  | nothing
  | waiting
  | failure (failure : Failure)
  | item (item : Except Failure Json)
  | ended
  | bytes (bytes : Except Failure Bytes)

/-- What the owner still has of the response; `S` stands for what follows the first item of the body. -/
inductive Held (S : Type) where
  | whole
  | body
  | rest (more : S)
  | gone

/-- A faulted response, the number of handles on its failure, and what its owner still has of it. -/
structure Holding (W : Type) where
  faulted : Faulted W
  handles : Nat
  held : Held (Stream W (Except Failure Json))

namespace Holding

/-- A new faulted response. -/
def fresh (rule : Rule W) (key : String) (response : Response W) : Holding W :=
  ⟨Faulted.make rule key response, 0, .whole⟩

/-- Does a deed. The failure is one for the response and all its handles: whoever asks for it settles it
    for the others. -/
def act (h : Holding W) (w : W) : Deed W → W × Holding W × Gain
  | .handle => match h.held with
    | .whole => (w, { h with handles := h.handles + 1 }, .nothing)
    | _ => (w, h, .nothing)
  | .await handle =>
    if handle < h.handles then match h.faulted.ask w with
      | (w, settled, e) => (w, { h with faulted := settled }, e.elim .waiting .failure)
    else (w, h, .nothing)
  | .body => match h.held with
    | .whole => (w, { h with held := .body }, .nothing)
    | _ => (w, h, .nothing)
  | .pull => match h.held with
    | .body => match h.faulted.toResponse.body w with
      | (w', items) => match items w' with
        | .item w'' item more => (w'', ⟨(h.faulted.ask w).2.1, h.handles, .rest more⟩, .item item)
        | .done w'' => (w'', { h with held := .rest .empty }, .ended)
        | .never w'' => (w'', ⟨(h.faulted.ask w).2.1, h.handles, .rest .never⟩, .waiting)
    | .rest more => match more w with
      | .item w' item more => (w', { h with held := .rest more }, .item item)
      | .done w' => (w', h, .ended)
      | .never w' => (w', h, .waiting)
    | _ => (w, h, .nothing)
  | .data => match h.held with
    | .whole => match h.faulted.toResponse.data w with
      | (w', .ok bytes) => (w', ⟨(h.faulted.ask w).2.1, h.handles, .gone⟩, .bytes (.ok bytes))
      | (w', .error e) => (w', ⟨(h.faulted.ask w).2.1, h.handles, .gone⟩, .bytes (.error e))
      | (w', .never) => (w', ⟨(h.faulted.ask w).2.1, h.handles, .gone⟩, .waiting)
    | _ => (w, h, .nothing)
  | .drop => (w, { h with held := .gone }, .nothing)
  | .meanwhile effect => (effect w, h, .nothing)

/-- Does one deed after the other. -/
def run : List (Deed W) → Holding W → W → W × List Gain
  | [], _, w => (w, [])
  | d :: ds, h, w => match h.act w d with
    | (w, h, gain) => match run ds h w with
      | (w, gains) => (w, gain :: gains)

end Holding

/-! ### Who asks, and what everyone gets -/

/-- The number of handles, and what the owner still has, whatever the failure is. -/
structure Stand where
  handles : Nat
  held : Held Unit

namespace Stand

/-- No handles yet, and all of the response. -/
def start : Stand := ⟨0, .whole⟩

/-- Whether a deed asks for the failure: a handle is awaited, the first item of the body is pulled, or the
    bytes are read. -/
def asks (s : Stand) : Deed W → Bool
  | .await handle => handle < s.handles
  | .pull => match s.held with
    | .body => true
    | _ => false
  | .data => match s.held with
    | .whole => true
    | _ => false
  | _ => false

/-- What stands after a deed. -/
def after (s : Stand) : Deed W → Stand
  | .handle => match s.held with
    | .whole => { s with handles := s.handles + 1 }
    | _ => s
  | .body => match s.held with
    | .whole => { s with held := .body }
    | _ => s
  | .pull => match s.held with
    | .body => { s with held := .rest () }
    | _ => s
  | .data => match s.held with
    | .whole => { s with held := .gone }
    | _ => s
  | .drop => { s with held := .gone }
  | _ => s

/-- What comes of a deed if `e` is the failure, or none ever comes. A body has one item and ends behind
    it. -/
def gain (e : Option Failure) (s : Stand) : Deed W → Gain
  | .await handle => if handle < s.handles then e.elim .waiting .failure else .nothing
  | .pull => match s.held with
    | .body => e.elim .waiting fun e => .item (.error e)
    | .rest () => e.elim .waiting fun _ => .ended
    | _ => .nothing
  | .data => match s.held with
    | .whole => e.elim .waiting fun e => .bytes (.error e)
    | _ => .nothing
  | _ => .nothing

/-- What comes of one deed after the other if `e` is the failure, or none ever comes. -/
def gains (e : Option Failure) : Stand → List (Deed W) → List Gain
  | _, [] => []
  | s, d :: ds => s.gain e d :: gains e (s.after d) ds

/-- The deeds before and behind the first one that asks for the failure. -/
def firstAsk : Stand → List (Deed W) → Option (List (Deed W) × List (Deed W))
  | _, [] => none
  | s, d :: ds =>
    if s.asks d then some ([], ds) else ((s.after d).firstAsk ds).map fun split => (d :: split.1, split.2)

end Stand

/-- What happens in the meantime. -/
def Deed.effect : Deed W → W → W
  | .meanwhile effect => effect
  | _ => id

/-- All that happens in the meantime. -/
def meanwhile (ds : List (Deed W)) (w : W) : W := ds.foldl (fun w d => d.effect w) w

/-! ### One deed, and all of them -/

/-- A failure that was decoded, or never comes. -/
def Deferred.known : Option Failure → Deferred W
  | some e => .settled e
  | none => .stuck

/-- What follows the failure in the body. -/
def behind : Option Failure → Stream W (Except Failure Json)
  | some _ => .done
  | none => .never

theorem Deferred.known_inj : ∀ {e e' : Option Failure}, known (W := W) e = known e' → e = e'
  | some _, some _, rfl => rfl
  | none, none, _ => rfl

theorem Deferred.force_known (e : Option Failure) (w : W) : (known e).force w = (w, known e, e) := by
  cases e <;> rfl

theorem Deferred.force_pending (decode : W → W × Option Failure) (w : W) :
    (pending decode).force w = ((decode w).1, known (decode w).2, (decode w).2) := by
  rw [force]
  rcases decode w with ⟨w', _ | e⟩ <;> rfl

/-- Whoever asks for the failure knows it then, and so do all others. -/
theorem Deferred.force_settles (failure : Deferred W) (w : W) :
    (failure.force w).2.1 = known (failure.force w).2.2 := by
  cases failure with
  | pending decode => rw [force_pending]
  | settled e => rfl
  | stuck => rfl

/-- The holding stands so, and its failure is pending or known as `failure` says. -/
structure Holding.At (h : Holding W) (failure : Deferred W) (s : Stand) : Prop where
  failure : h.faulted.failure = failure
  handles : h.handles = s.handles
  held : match h.held, s.held with
    | .whole, .whole => True
    | .body, .body => True
    | .rest more, .rest () => ∃ e, h.faulted.failure = .known e ∧ more = behind e
    | .gone, .gone => True
    | _, _ => False

theorem Holding.fresh_at (rule : Rule W) (key : String) (response : Response W) :
    (fresh rule key response).At (.pending (rule.decode key response)) .start := ⟨rfl, rfl, trivial⟩

/-- A deed that asks for the failure settles it and gets it. -/
theorem Holding.At.ask {h : Holding W} {failure : Deferred W} {s : Stand} (hat : h.At failure s)
    {d : Deed W} (hd : s.asks d = true) (w : W) : ∃ h' : Holding W,
      h.act w d = ((failure.force w).1, h', s.gain (failure.force w).2.2 d) ∧
      h'.At (failure.force w).2.1 (s.after d) := by
  obtain ⟨rfl, hhandles, hheld⟩ := hat
  obtain ⟨faulted, handles, held⟩ := h
  obtain ⟨handles', held'⟩ := s
  subst hhandles
  cases d with
  | await handle =>
    have hlt : handle < handles := by simpa [Stand.asks] using hd
    refine ⟨⟨(faulted.ask w).2.1, handles, held⟩, ?_, rfl, rfl, ?_⟩
    · simp only [act, Stand.gain, hlt, if_true]
      rfl
    -- if an item has been pulled the failure was known before
    · cases held <;> cases held' <;> try exact hheld
      obtain ⟨e, hknown, hmore⟩ := hheld
      have hforced : (faulted.failure.force w).2.1 = .known e := by
        rw [hknown, Deferred.force_known]
      exact ⟨e, hforced, hmore⟩
  | pull =>
    cases held' with
    | body =>
      cases held with
      | body =>
        refine ⟨⟨(faulted.ask w).2.1, handles, .rest (behind (faulted.failure.force w).2.2)⟩, ?_, rfl, rfl,
          _, faulted.failure.force_settles w, rfl⟩
        simp only [act, Faulted.toResponse, Stream.once, Faulted.fail]
        rcases faulted.failure.force w with ⟨w', settled, _ | e⟩ <;> rfl
      | _ => cases hheld
    | _ => cases hd
  | data =>
    cases held' with
    | whole =>
      cases held with
      | whole =>
        refine ⟨⟨(faulted.ask w).2.1, handles, .gone⟩, ?_, rfl, rfl, trivial⟩
        simp only [act, Faulted.toResponse, Faulted.fail]
        rcases faulted.failure.force w with ⟨w', settled, _ | e⟩ <;> rfl
      | _ => cases hheld
    | _ => cases hd
  | _ => cases hd

/-- Nothing of the body has been pulled. -/
def Stand.Fresh (s : Stand) : Prop := s.held ≠ .rest ()

/-- Any other deed leaves the failure as it is. -/
theorem Holding.At.pass {h : Holding W} {failure : Deferred W} {s : Stand} (hat : h.At failure s)
    {d : Deed W} (hd : s.asks d = false) (w : W) : ∃ h' : Holding W,
      (∀ e, failure = .known e ∨ s.Fresh → h.act w d = (d.effect w, h', s.gain e d)) ∧
        h'.At failure (s.after d) := by
  obtain ⟨rfl, hhandles, hheld⟩ := hat
  obtain ⟨faulted, handles, held⟩ := h
  obtain ⟨handles', held'⟩ := s
  subst hhandles
  cases d with
  | await handle =>
    have hge : ¬ handle < handles := by simpa [Stand.asks] using hd
    refine ⟨⟨faulted, handles, held⟩, fun e _ => ?_, rfl, rfl, hheld⟩
    simp only [act, Stand.gain, hge, if_false]
    rfl
  | drop => exact ⟨⟨faulted, handles, .gone⟩, fun _ _ => rfl, rfl, rfl, trivial⟩
  | meanwhile effect => exact ⟨⟨faulted, handles, held⟩, fun _ _ => rfl, rfl, rfl, hheld⟩
  -- only the rest of a body depends on what the failure was
  | pull =>
    refine ⟨⟨faulted, handles, held⟩, fun e he => ?_, ?_⟩
    · cases held' <;> cases held <;> cases hd <;> try first | rfl | exact hheld.elim
      obtain ⟨e', hknown', rfl⟩ := hheld
      obtain hknown | hfresh := he
      · obtain rfl := Deferred.known_inj (hknown.symm.trans hknown')
        cases e <;> rfl
      · exact absurd rfl hfresh
    · cases held' <;> cases held <;> cases hd <;> exact ⟨rfl, rfl, hheld⟩
  | _ =>
    cases held' <;> cases held <;> cases hd <;>
      first | exact hheld.elim | exact ⟨_, fun _ _ => rfl, rfl, rfl, hheld⟩

theorem Holding.At.run_known : ∀ (ds : List (Deed W)) {h : Holding W} {e : Option Failure} {s : Stand},
    h.At (.known e) s → ∀ w, h.run ds w = (meanwhile ds w, s.gains e ds)
  | [], _, _, _, _, _ => rfl
  | d :: ds, h, e, s, hat, w => by
    -- to ask for a known failure changes nothing, so the two cases are alike
    have hact : ∃ h' : Holding W, h.act w d = (d.effect w, h', s.gain e d) ∧ h'.At (.known e) (s.after d) := by
      cases hd : s.asks d with
      | true =>
        obtain ⟨h', hact, hat'⟩ := hat.ask hd w
        rw [Deferred.force_known] at hact hat'
        have heffect : d.effect w = w := by cases d <;> first | rfl | cases hd
        exact ⟨h', by rw [hact, heffect], hat'⟩
      | false =>
        obtain ⟨h', hact, hat'⟩ := hat.pass hd w
        exact ⟨h', hact e (.inl rfl), hat'⟩
    obtain ⟨h', hact, hat'⟩ := hact
    rw [run, hact]
    simp only [hat'.run_known ds, Stand.gains]
    rfl

theorem Stand.Fresh.pass {s : Stand} (hs : s.Fresh) {d : Deed W} (hd : s.asks d = false) (e : Option Failure) :
    (s.after d).Fresh ∧ s.gain e d = .nothing := by
  obtain ⟨handles, held⟩ := s
  cases d with
  | await handle =>
    have hge : ¬ handle < handles := by simpa [asks] using hd
    exact ⟨hs, if_neg hge⟩
  | drop => exact ⟨nofun, rfl⟩
  | meanwhile effect => exact ⟨hs, rfl⟩
  | _ => cases held <;> first | exact absurd rfl hs | exact ⟨nofun, rfl⟩ | cases hd

/-- The first deed that asks for the failure decodes it; without such a deed nothing happens but what
    happens in the meantime. -/
theorem Holding.At.run_pending {decode : W → W × Option Failure} :
    ∀ (ds : List (Deed W)) {h : Holding W} {s : Stand},
    h.At (.pending decode) s → s.Fresh → ∀ w, match s.firstAsk ds with
      | none => h.run ds w = (meanwhile ds w, ds.map fun _ => .nothing)
      | some (before, behind) => h.run ds w = (meanwhile behind (decode (meanwhile before w)).1,
        s.gains (decode (meanwhile before w)).2 ds)
  | [], _, _, _, _, _ => rfl
  | d :: ds, h, s, hat, hfresh, w => by
    cases hd : s.asks d with
    | true =>
      obtain ⟨h', hact, hat'⟩ := hat.ask hd w
      rw [Deferred.force_pending] at hact hat'
      simp only [Stand.firstAsk, hd, if_true, run, hact]
      rw [hat'.run_known ds]
      rfl
    | false =>
      obtain ⟨h', hact, hat'⟩ := hat.pass hd w
      have hafter := (hfresh.pass hd none).1
      have ih := hat'.run_pending ds hafter (d.effect w)
      simp only [Stand.firstAsk, hd, run]
      cases hsplit : (s.after d).firstAsk ds with
      | none =>
        rw [hsplit] at ih
        simp only [hact none (.inr hfresh), ih, (hfresh.pass hd none).2]
        rfl
      | some split =>
        obtain ⟨before, behind⟩ := split
        rw [hsplit] at ih
        simp only [hact (decode (meanwhile before (d.effect w))).2 (.inr hfresh), ih]
        rfl

/-! ### Handlers -/

/-- What a handler goes on with when it has seen status and headers: it has a failure, or it reads the
    response, in one form or the other, and comes to a failure if it ever does. -/
inductive Move (W : Type) where
  | failure (failure : Failure)
  | bytes (next : Except Failure Bytes → W → W × Option Failure)
  | elements (next : Stream W (Except Failure Json) → W → W × Option Failure)

/-- Claims statuses and makes failures of responses, each of which it can read once. -/
structure Handler (W : Type) where
  name : String
  claims : Nat → Bool
  plan : String → Nat → Http.Headers → W → W × Move W

namespace Handler

/-- The handler as a rule. -/
def rule (h : Handler W) : Rule W where
  name := h.name
  claims := h.claims
  decode := fun key response w => match h.plan key response.status response.headers w with
    | (w, .failure e) => (w, some e)
    | (w, .bytes next) => match response.data w with
      | (w, .ok bytes) => next (.ok bytes) w
      | (w, .error e) => next (.error e) w
      | (w, .never) => (w, none)
    | (w, .elements next) => match response.body w with
      | (w, items) => next items w

/-- A handler whose failures are made of the bytes of the body; if these cannot be read, that is the
    failure. -/
def ofDecoder (name : String) (claims : Nat → Bool)
    (decoder : String → Nat → Http.Headers → Bytes → W → W × Failure) : Handler W where
  name := name
  claims := claims
  plan := fun key status headers w => (w, .bytes fun bytes w => match bytes with
    | .ok bytes => (decoder key status headers bytes w).map id some
    | .error e => (w, some e))

/-- The first handler that claims a status. -/
def select (hs : List (Handler W)) (status : Nat) : Option (Handler W) := hs.find? fun h => h.claims status

/-- Several handlers as one. -/
def firstOf (hs : List (Handler W)) : Handler W where
  name := "composite"
  claims := fun status => (select hs status).isSome
  plan := fun key status headers w => match select hs status with
    | some h => h.plan key status headers w
    | none => (w, .failure (.other ("no status handler for status " ++ toString status)))

theorem rule_ofDecoder (name : String) (claims : Nat → Bool)
    (decoder : String → Nat → Http.Headers → Bytes → W → W × Failure) :
    (ofDecoder name claims decoder).rule = Rule.ofDecoder name claims decoder := by
  simp only [rule, ofDecoder, Rule.ofDecoder, Rule.mk.injEq, true_and]
  funext key response w
  rcases response.data w with ⟨w', e | bytes | _⟩ <;> rfl

theorem select_rules (hs : List (Handler W)) (status : Nat) :
    Rule.select (hs.map rule) status = (select hs status).map rule := by
  rw [Rule.select, List.find?_map]
  rfl

theorem rule_firstOf (hs : List (Handler W)) : (firstOf hs).rule = Rule.firstOf (hs.map rule) := by
  simp only [rule, firstOf, Rule.firstOf, select_rules, Option.isSome_map, Rule.mk.injEq, true_and]
  funext key response w
  cases select hs response.status with
  | none => rfl
  | some h => rfl

end Handler

/-! ### Handlers that are watched -/

/-- What is written down: that a handler decodes, and what it reads of the response. -/
inductive Access where
  | decoded
  | bytes
  | elements
deriving DecidableEq

/-- The response, with notes of what is read of it. -/
def watch (r : Response W) : Response (Noted W Access) where
  status := r.status
  headers := r.headers
  body := fun v => match r.body v.world with
    | (w, items) => (⟨w, v.notes ++ [.elements]⟩, items.noted (fun _ => []) [] [])
  data := fun v => match r.data v.world with
    | (w, bytes) => (⟨w, v.notes ++ [.bytes]⟩, bytes)

/-- What a move reads of the response. -/
def Move.reads : Move W → List Access
  | .failure _ => []
  | .bytes _ => [.bytes]
  | .elements _ => [.elements]

/-- The handler, with a note of each time it decodes. -/
def Handler.watched (h : Handler W) : Rule (Noted W Access) where
  name := h.name
  claims := h.claims
  decode := fun key response v => match h.plan key response.status response.headers v.world with
    | (w, move) =>
      let v : Noted W Access := ⟨w, v.notes ++ [.decoded]⟩
      match move with
      | .failure e => (v, some e)
      | .bytes next => match response.data v with
        | (v, .ok bytes) => ((next (.ok bytes) v.world).map (⟨·, v.notes⟩) id)
        | (v, .error e) => ((next (.error e) v.world).map (⟨·, v.notes⟩) id)
        | (v, .never) => (v, none)
      | .elements next => match response.body v with
        | (v, items) => ((next (fun w => (items ⟨w, []⟩).plain) v.world).map (⟨·, v.notes⟩) id)

/-- A watched handler does what it does unwatched, and reads the response at most once. -/
theorem Handler.watched_decode (h : Handler W) (key : String) (r : Response W) (v : Noted W Access) :
    h.watched.decode key (watch r) v = ((h.rule.decode key r v.world).map
      (⟨·, v.notes ++ .decoded :: (h.plan key r.status r.headers v.world).2.reads⟩) id) := by
  have happend : ∀ xs : List Access, v.notes ++ [.decoded] ++ xs = v.notes ++ .decoded :: xs := by simp
  rcases hplan : h.plan key r.status r.headers v.world with ⟨w, e | next | next⟩ <;>
    simp only [watched, rule, watch, hplan]
  · rfl
  · rcases hdata : r.data w with ⟨w', e | bytes | _⟩ <;> simp only [hdata, happend] <;> rfl
  · have hplain : (fun u => ((r.body w).2.noted (fun _ => []) [] ([] : List Access) ⟨u, []⟩).plain)
        = (r.body w).2 :=
      funext fun u => Step.plain_of_alike ((r.body w).2.noted_alike _ _ _ ⟨u, []⟩ u rfl)
    simp only [happend, hplain]
    rfl

/-- A deed that writes nothing. -/
def Deed.noted : Deed W → Deed (Noted W Access)
  | .handle => .handle
  | .await n => .await n
  | .body => .body
  | .pull => .pull
  | .data => .data
  | .drop => .drop
  | .meanwhile effect => .meanwhile (Noted.act effect)

theorem meanwhile_noted (ds : List (Deed W)) (v : Noted W Access) :
    meanwhile (ds.map Deed.noted) v = ⟨meanwhile ds v.world, v.notes⟩ := by
  induction ds generalizing v with
  | nil => rfl
  | cons d ds ih =>
    have heffect : d.noted.effect v = ⟨d.effect v.world, v.notes⟩ := by cases d <;> rfl
    have hstep : meanwhile ((d :: ds).map Deed.noted) v = meanwhile (ds.map Deed.noted) (d.noted.effect v) := rfl
    rw [hstep, heffect, ih]
    rfl

theorem Stand.firstAsk_noted : ∀ (ds : List (Deed W)) (s : Stand), s.firstAsk (ds.map Deed.noted)
    = (s.firstAsk ds).map fun split => (split.1.map Deed.noted, split.2.map Deed.noted)
  | [], _ => rfl
  | d :: ds, s => by
    have hasks : s.asks d.noted = s.asks d := by cases d <;> rfl
    have hafter : s.after d.noted = s.after d := by cases d <;> rfl
    simp only [List.map_cons, firstAsk, hasks, hafter, firstAsk_noted ds]
    cases s.asks d with
    | true => rfl
    | false => cases (s.after d).firstAsk ds <;> rfl

theorem Stand.gains_noted (e : Option Failure) : ∀ (ds : List (Deed W)) (s : Stand),
    s.gains e (ds.map Deed.noted) = s.gains e ds
  | [], _ => rfl
  | d :: ds, s => by
    have hgain : s.gain e d.noted = s.gain e d := by cases d <;> rfl
    have hafter : s.after d.noted = s.after d := by cases d <;> rfl
    simp only [List.map_cons, gains, hgain, hafter, gains_noted e ds]

/-- Whatever is done with a faulted response, in whatever order: as long as nobody asks for the failure,
    nothing is decoded and nothing of the response is read. The first one who asks has it decoded, once,
    and that reads the response at most once; everybody who asks gets this failure, and the body ends
    behind it. If decoding never comes to an end, everybody who asks waits for good. Handlers are all that
    look at status and headers and then read the response at most once: those that decode the bytes, for
    which bytes that cannot be read are the failure, and those that are made of others. -/
theorem failure_decoded_once (handler : Handler W) (key : String) (response : Response W)
    (deeds : List (Deed W)) (w : W) :
    (match Stand.start.firstAsk deeds, (Holding.fresh handler.rule key response).run deeds w,
        (Holding.fresh handler.watched key (watch response)).run (deeds.map Deed.noted) ⟨w, []⟩ with
      | none, run, watched => run = (meanwhile deeds w, deeds.map fun _ => .nothing) ∧
        watched = (⟨run.1, []⟩, run.2)
      | some (before, behind), run, watched =>
        ∃ decoded failure reads, handler.rule.decode key response (meanwhile before w) = (decoded, failure) ∧
          run = (meanwhile behind decoded, Stand.start.gains failure deeds) ∧
          watched = (⟨run.1, .decoded :: reads⟩, run.2) ∧ reads ∈ [[], [.bytes], [.elements]]) ∧
    (∀ name claims decoder, (Handler.ofDecoder name claims decoder).rule = Rule.ofDecoder name claims decoder ∧
      match response.data w, (Rule.ofDecoder name claims decoder).decode key response w with
        | (w', .ok bytes), decoded =>
          decoded = (decoder key response.status response.headers bytes w').map id some
        | (w', .error e), decoded => decoded = (w', some e)
        | (w', .never), decoded => decoded = (w', none)) ∧
    ∀ handlers, (Handler.firstOf handlers).rule = Rule.firstOf (handlers.map (Handler.rule (W := W))) := by
  refine ⟨?_, fun name claims decoder => ⟨Handler.rule_ofDecoder name claims decoder, ?_⟩, Handler.rule_firstOf⟩
  · have hrun := (Holding.fresh_at handler.rule key response).run_pending deeds nofun w
    have hwatched := (Holding.fresh_at handler.watched key (watch response)).run_pending
      (deeds.map Deed.noted) nofun ⟨w, []⟩
    rw [Stand.firstAsk_noted] at hwatched
    cases hsplit : Stand.start.firstAsk deeds with
    | none =>
      rw [hsplit] at hrun hwatched
      simp only [Option.map_none, meanwhile_noted, List.map_map] at hrun hwatched
      rw [hrun, hwatched]
      exact ⟨rfl, rfl⟩
    | some split =>
      obtain ⟨before, behind⟩ := split
      rw [hsplit] at hrun hwatched
      simp only [Option.map_some, meanwhile_noted, Handler.watched_decode, Stand.gains_noted] at hrun hwatched
      refine ⟨_, _, (handler.plan key response.status response.headers (meanwhile before w)).2.reads,
        rfl, hrun, ?_, ?_⟩
      · rw [hrun, hwatched]
        rfl
      · cases (handler.plan key response.status response.headers (meanwhile before w)).2 <;> simp [Move.reads]
  · simp only [Rule.ofDecoder]
    rcases response.data w with ⟨w', e | bytes | _⟩ <;> rfl

end Courier.Status
