import Courier.Proofs.Listener.Aside
import Courier.Proofs.Retry.Call
import Courier.Proofs.Retry.Tally

/-! How often a client tries.

    A client with a basic policy makes one attempt more than retries are allowed at most, and each
    attempt runs through all interceptors once. What ends a call is the first failure that the policy
    does not accept or that comes after the last retry (`calls_within_budget`). -/

namespace Courier

variable {W : Type} [Ambient W]

namespace Retry

/-! ### The policy's decisions -/

/-- All failures may be tried again: each is accepted, and there are no more of them than retries. -/
def BasicPolicy.Allows (p : BasicPolicy) (es : List Failure) : Prop :=
  es.length ≤ p.maxRetries ∧ ∀ e ∈ es, p.accepts e

/-- The last of the failures is the first one that may not be tried again. -/
def BasicPolicy.Ends (p : BasicPolicy) (es : List Failure) (e : Failure) : Prop :=
  ∃ earlier, es = earlier ++ [e] ∧ p.Allows earlier ∧
    (earlier.length = p.maxRetries ∨ p.accepts e = false)

/-- The policy has heard of these failures and waits for another one. -/
structure Ready (p : BasicPolicy) (es : List Failure) (session : Session (Noted W Tally)) (retries : Nat) :
    Prop where
  length : es.length = retries
  allows : p.Allows es
  session : session = p.converse (p.maxRetries - retries) (retries + 1)

theorem wait_notes (d : Duration) (v : Noted W Tally) : (BasicPolicy.wait d v).notes = v.notes := by
  rw [BasicPolicy.wait]
  split <;> rfl

/-- An answer to the failure behind these ones: it ends the call or may be tried again, with one retry
    less to come. -/
def Judges (p : BasicPolicy) (es : List Failure) (retries : Nat) (e : Failure) (v : Noted W Tally) :
    Answer (Noted W Tally) → Prop
  | .granted v' rest queue => v'.notes = v.notes ∧ queue = [] ∧ Ready p (es ++ [e]) rest (retries + 1)
  | .declined v' e' => v' = v ∧ e' = e ∧ p.Ends (es ++ [e]) e
  | _ => False

theorem Ready.consult {p : BasicPolicy} {es : List Failure} {session : Session (Noted W Tally)}
    {retries : Nat} (h : Ready p es session retries) {e : Failure} {v : Noted W Tally}
    {answer : Answer (Noted W Tally)} (hc : session.consult [e] v = answer) :
    Judges p es retries e v answer := by
  obtain ⟨rfl, ⟨hle, haccepts⟩, rfl⟩ := h
  subst hc
  -- without retries left the policy declines whatever it hears, else it looks at the failure
  rcases Nat.eq_or_lt_of_le hle with hlast | hmore
  · rw [hlast, Nat.sub_self]
    exact ⟨rfl, rfl, es, rfl, ⟨hle, haccepts⟩, .inl hlast⟩
  · obtain ⟨left, hleft⟩ : ∃ left, p.maxRetries - es.length = left + 1 := ⟨_, (Nat.succ_pred (by omega)).symm⟩
    have hsaid : (p.converse (left + 1) (es.length + 1) : Session (Noted W Tally)).consult [e] v
        = (if p.accepts e then .perform (BasicPolicy.wait (p.delay e (es.length + 1)))
            fun _ => .answer (.ok ()) (p.converse left (es.length + 1 + 1))
          else .answer (.error e) .closed : Session (Noted W Tally)).consult [] v := rfl
    rw [hleft, hsaid]
    cases ha : p.accepts e with
    | false => exact ⟨rfl, rfl, es, rfl, ⟨hle, haccepts⟩, .inr ha⟩
    | true =>
      have hrest : p.maxRetries - (es.length + 1) = left := by omega
      have hall : ∀ e' ∈ es ++ [e], p.accepts e' := by
        intro e' he'
        rcases List.mem_append.mp he' with hmem | hmem
        · exact haccepts e' hmem
        · rw [List.mem_singleton.mp hmem, ha]
      refine ⟨wait_notes _ v, rfl, by simp, ⟨by rw [List.length_append]; exact hmore, hall⟩, ?_⟩
      rw [hrest]

/-! ### Whole calls -/

/-- The notes so far are those of attempts, all but the last of which have failed and were accepted. -/
def Spent (p : BasicPolicy) (n : Nat) (v : Noted W Tally) : Phase (Noted W Tally) → Prop
  | .due session queue retries => ∃ es, v.notes = Tally.attempts n es ∧ Ready p es session retries ∧ queue = []
  | .reading items session queue retries => ∃ es, v.notes = Tally.attempts n es ++ Tally.attempt n ∧
      Ready p es session retries ∧ queue = [] ∧
      ∃ q : Stream (Noted W Tally) (Except Failure Json), q.Quiet ∧ items = Tally.tap q
  | .asking session queue last retries => ∃ es, v.notes = Tally.attempts n (es ++ [last]) ∧
      Ready p es session retries ∧ queue = [last]
  | .failed e => ∃ es, v.notes = Tally.attempts n es ∧ p.Ends es e
  | .unanswered => False
  | _ => ∃ es, v.notes = Tally.attempts n es ++ Tally.attempt n ∧ p.Allows es

theorem spent_turn {p : BasicPolicy} {n : Nat} {a : Attempts (Noted W Tally)} (hl : a.listener.Quiet)
    (hx : a.inner.Tallied n) {ms : List Mark} {v v' : Noted W Tally} {s s' : Phase (Noted W Tally)}
    (h : Turn (fun v v' => v'.notes = v.notes) a v s ms v' s') (hs : Spent p n v s) : Spent p n v' s' := by
  -- a failure belongs to `es` once the policy has answered; until then it is the one asked about
  cases h with
  | refuse he =>
    obtain ⟨es, hnotes, hready, rfl⟩ := hs
    refine ⟨es, ?_, hready, rfl⟩
    have hrefused := hx.refused he
    rw [hnotes] at hrefused
    rw [Tally.attempts_concat]
    exact hrefused
  | stall he =>
    obtain ⟨es, hnotes, hready, rfl⟩ := hs
    exact ⟨es, by rw [hx.never he, hnotes], hready.allows⟩
  | arrive he hb =>
    obtain ⟨es, hnotes, hready, rfl⟩ := hs
    obtain ⟨harrived, hbody⟩ := hx.arrived he
    obtain ⟨hasked, hitems⟩ := hbody _
    rw [hb] at hasked hitems
    exact ⟨es, by rw [hasked, harrived, hnotes], hready, rfl, hitems⟩
  | deliver hi =>
    obtain ⟨es, hnotes, hready, rfl, q, hq, rfl⟩ := hs
    obtain ⟨hitem, hmore⟩ := hq.tap_item hi
    exact ⟨es, by rw [hitem, hnotes]; exact List.append_nil _, hready, rfl, hmore⟩
  | finish hi =>
    obtain ⟨es, hnotes, hready, rfl, q, hq, rfl⟩ := hs
    exact ⟨es, (hq.tap_done hi).trans hnotes, hready.allows⟩
  | collapse hi =>
    obtain ⟨es, hnotes, hready, rfl, q, hq, rfl⟩ := hs
    obtain ⟨hitem, -⟩ := hq.tap_item hi
    refine ⟨es, ?_, hready, rfl⟩
    rw [hnotes] at hitem
    rw [Tally.attempts_concat]
    exact hitem
  | dry hi =>
    obtain ⟨es, hnotes, hready, rfl, q, hq, rfl⟩ := hs
    exact ⟨es, (hq.tap_never hi).trans hnotes, hready.allows⟩
  | grant hc =>
    obtain ⟨es, hnotes, hready, rfl⟩ := hs
    obtain ⟨hwaited, rfl, hready'⟩ := hready.consult hc
    exact ⟨es ++ [_], (hl _ _).trans (hwaited.trans hnotes), hready', rfl⟩
  | decline hc =>
    obtain ⟨es, hnotes, hready, rfl⟩ := hs
    obtain ⟨rfl, rfl, hends⟩ := hready.consult hc
    exact ⟨es ++ [_], hnotes, hends⟩
  | silence hc =>
    obtain ⟨es, hnotes, hready, rfl⟩ := hs
    exact (hready.consult hc).elim
  | never hc =>
    obtain ⟨es, hnotes, hready, rfl⟩ := hs
    exact (hready.consult hc).elim
  | pause _ ha =>
    have hsame : Spent p n v' s = Spent p n v s := by cases s <;> simp only [Spent, ha]
    rwa [hsame]

/-- What a call has cost: all its failures, `n` being the number of interceptors. -/
def Within (p : BasicPolicy) (n : Nat) (notes : List Tally) (receipt : Receipt) : Prop :=
  notes.count .sent ≤ p.maxRetries + 1 ∧ (∀ k < n, notes.count (.applied k) = notes.count .sent) ∧
    ∃ es, match receipt.failure? with
      | none => notes = Tally.attempts n es ++ Tally.attempt n ∧ p.Allows es
      | some e => notes = Tally.attempts n es ∧ p.Ends es e

theorem attempt_count_sent (n : Nat) : (Tally.attempt n).count .sent = 1 := by
  have hnone : ((List.range' 0 n).map Tally.applied).count .sent = 0 :=
    List.count_eq_zero.mpr fun h => by
      obtain ⟨_, _, hk⟩ := List.mem_map.mp h
      cases hk
  rw [Tally.attempt, List.count_append, hnone]
  rfl

theorem attempt_count_applied {n k : Nat} (hk : k < n) : (Tally.attempt n).count (.applied k) = 1 := by
  have hnodup : ((List.range' 0 n).map Tally.applied).Nodup :=
    List.Pairwise.map Tally.applied (fun _ _ hne h => hne (Tally.applied.inj h)) List.nodup_range'
  have hmem : Tally.applied k ∈ (List.range' 0 n).map Tally.applied :=
    List.mem_map_of_mem (List.mem_range'_1.mpr ⟨Nat.zero_le k, by omega⟩)
  rw [Tally.attempt, List.count_append, hnodup.count, if_pos hmem]
  rfl

theorem attempts_count (n : Nat) (x : Tally) (hx : ∀ e, x ≠ .failed e) (es : List Failure) :
    (Tally.attempts n es).count x = es.length * (Tally.attempt n).count x := by
  induction es with
  | nil => simp [Tally.attempts]
  | cons e es ih =>
    have hfailed : [Tally.failed e].count x = 0 :=
      List.count_eq_zero.mpr fun h => hx e (List.mem_singleton.mp h)
    have hsplit : Tally.attempts n (e :: es) = Tally.attempt n ++ [.failed e] ++ Tally.attempts n es := rfl
    rw [hsplit, List.count_append, List.count_append, hfailed, ih, List.length_cons, Nat.add_mul]
    omega

/-- What is noted once in each attempt is noted as often as there are attempts. -/
theorem attempts_count_sent {n : Nat} (es : List Failure) : (Tally.attempts n es).count .sent = es.length := by
  rw [attempts_count n .sent nofun, attempt_count_sent, Nat.mul_one]

theorem attempts_count_applied {n k : Nat} (hk : k < n) (es : List Failure) :
    (Tally.attempts n es).count (.applied k) = es.length := by
  rw [attempts_count n (.applied k) nofun, attempt_count_applied hk, Nat.mul_one]

theorem Within.of_allows {p : BasicPolicy} {n : Nat} {es : List Failure} {receipt : Receipt}
    (hes : p.Allows es) (hreceipt : receipt.failure? = none) :
    Within p n (Tally.attempts n es ++ Tally.attempt n) receipt := by
  refine ⟨?_, fun k hk => ?_, es, ?_⟩
  · rw [List.count_append, attempts_count_sent, attempt_count_sent]
    exact Nat.succ_le_succ hes.1
  · rw [List.count_append, List.count_append, attempts_count_sent, attempt_count_sent,
      attempts_count_applied hk, attempt_count_applied hk]
  · rw [hreceipt]
    exact ⟨rfl, hes⟩

theorem Within.of_ends {p : BasicPolicy} {n : Nat} {es : List Failure} {e : Failure} {receipt : Receipt}
    (hes : p.Ends es e) (hreceipt : receipt.failure? = some e) :
    Within p n (Tally.attempts n es) receipt := by
  refine ⟨?_, fun k hk => ?_, es, ?_⟩
  · obtain ⟨earlier, rfl, ⟨hle, -⟩, -⟩ := hes
    rw [attempts_count_sent, List.length_append]
    exact Nat.succ_le_succ hle
  · rw [attempts_count_sent, attempts_count_applied hk]
  · rw [hreceipt]
    exact ⟨rfl, hes⟩

omit [Ambient W] in
theorem failure?_items (js : List Json) (status : Nat) (headers : Http.Headers) (s : Phase W)
    (waiting : Bool) :
    (Receipt.response status headers (.items ⟨js.map .ok ++ s.refusal, waiting⟩)).failure? = s.failure? := by
  have hnone : (Receipt.response status headers (.items ⟨js.map .ok, waiting⟩)).failure? = none := by
    rw [Receipt.failure?, List.getLast?_map]
    cases js.getLast? <;> rfl
  rw [Phase.refusal]
  cases hs : s.failure? with
  | some e =>
    simp only [Option.toList_some, List.map_cons, List.map_nil, Receipt.failure?, List.getLast?_concat]
  | none => simpa using hnone

/-- A call of the exchange with the policy. -/
theorem exchange_within (p : BasicPolicy) {n : Nat} {l : Listener (Noted W Tally)} (hl : l.Quiet)
    (endpoint : Endpoint) {x : Exchange (Noted W Tally)} (hx : x.Tallied n)
    (request : Request (Noted W Tally)) {act : List (Except Failure Json) → Noted W Tally → Noted W Tally}
    (hact : ∀ seen v, (act seen v).notes = v.notes) {v : Noted W Tally} (hv : v.notes = []) :
    Within p n ((exchange p.toPolicy l endpoint x).call request (.toEnd act) v).1.notes
      ((exchange p.toPolicy l endpoint x).call request (.toEnd act) v).2 := by
  let acts : Noted W Tally → Noted W Tally → Prop := fun v v' => v'.notes = v.notes
  have hacts : ∀ (seen : List (Except Failure Json)) (v : Noted W Tally), acts v (act seen v) := hact
  obtain ⟨ms, s, hpath, hidle, hreceipt⟩ := call_toEnd p.toPolicy l endpoint x request hacts v
  have hstart : Spent p n v (.due (p.converse p.maxRetries 1) [] 0) :=
    ⟨[], hv, ⟨rfl, ⟨Nat.zero_le _, nofun⟩, rfl⟩, rfl⟩
  have hspent : Spent p n _ s := hpath.keeps (I := fun _ v s => Spent p n v s)
    (fun ht hs => spent_turn hl hx ht hs) [] hstart
  have hfailure : ((exchange p.toPolicy l endpoint x).call request (.toEnd act) v).2.failure?
      = s.failure? := by
    revert hreceipt
    cases ((exchange p.toPolicy l endpoint x).call request (.toEnd act) v).2 with
    | refused e => rintro ⟨-, rfl⟩; rfl
    | waiting =>
      rintro ⟨-, hwaits⟩
      cases s <;> first | rfl | cases hwaits
    | response status headers taken => rintro ⟨-, rfl, -⟩; exact failure?_items _ status headers s _
  cases s with
  | due => exact hidle.elim
  | asking => exact hidle.elim
  | reading =>
    obtain ⟨es, hnotes, hready, -⟩ := hspent
    rw [hnotes]
    exact .of_allows hready.allows hfailure
  | complete =>
    obtain ⟨es, hnotes, hallows⟩ := hspent
    rw [hnotes]
    exact .of_allows hallows hfailure
  | stalled =>
    obtain ⟨es, hnotes, hallows⟩ := hspent
    rw [hnotes]
    exact .of_allows hallows hfailure
  | unanswered => exact hspent.elim
  | failed e =>
    obtain ⟨es, hnotes, hends⟩ := hspent
    rw [hnotes]
    exact .of_ends hends hfailure

/-! ### Failures that end a call at once -/

omit [Ambient W]

/-- Failures that the usual filter never accepts: a body or a request that cannot be read, a bad
    configuration, whatever else, and a status that blames the client, unless it asks for patience. -/
def Hopeless : Failure → Prop
  | .decode _ => True
  | .invalidRequest _ => True
  | .configuration _ => True
  | .other _ => True
  | .status s => 400 ≤ s.status ∧ s.status < 500 ∧ s.status ≠ 429
  | .transport _ _ => False
  | .timeout _ => False

theorem Hopeless.not_transient : ∀ {e : Failure}, Hopeless e → e.isTransient = false
  | .decode _, _ => rfl
  | .invalidRequest _, _ => rfl
  | .configuration _, _ => rfl
  | .other _, _ => rfl
  | .status s, ⟨_, hlt, hne⟩ => by
    rw [Failure.isTransient, beq_false_of_ne hne, decide_eq_false (by omega : ¬ 500 ≤ s.status)]
    rfl

theorem mem_attempts {n : Nat} {es : List Failure} {e : Failure}
    (h : Tally.failed e ∈ Tally.attempts n es ++ Tally.attempt n) : e ∈ es := by
  have hattempt : Tally.failed e ∉ Tally.attempt n := by
    intro hmem
    rcases List.mem_append.mp hmem with hmem | hmem
    · obtain ⟨_, _, hk⟩ := List.mem_map.mp hmem
      cases hk
    · cases List.mem_singleton.mp hmem
  rcases List.mem_append.mp h with hmem | hmem
  · obtain ⟨e', he', hround⟩ := List.mem_flatMap.mp hmem
    rcases List.mem_append.mp hround with hround | hround
    · exact absurd hround hattempt
    · cases List.mem_singleton.mp hround
      exact he'
  · exact absurd hmem hattempt

/-- With the usual filter nothing happens after a failure that it never accepts. -/
theorem Within.hopeless {p : BasicPolicy} {n : Nat} {notes : List Tally} {receipt : Receipt}
    (h : Within p n notes receipt) (hp : p.accepts = Failure.isTransient) {earlier later : List Tally}
    {e : Failure} (hnotes : notes = earlier ++ .failed e :: later) (he : Hopeless e) :
    later = [] ∧ receipt.failure? = some e := by
  have hrefused : ∀ es : List Failure, (∀ e ∈ es, p.accepts e) → e ∉ es := by
    intro es hes hmem
    have haccepts := hes e hmem
    rw [hp, he.not_transient] at haccepts
    cases haccepts
  obtain ⟨-, -, es, hes⟩ := h
  cases hr : receipt.failure? with
  | none =>
    rw [hr] at hes
    obtain ⟨rfl, hallows⟩ := hes
    have hmem : Tally.failed e ∈ Tally.attempts n es ++ Tally.attempt n := by rw [hnotes]; simp
    exact absurd (mem_attempts hmem) (hrefused es hallows.2)
  | some e' =>
    rw [hr] at hes
    obtain ⟨rfl, before, rfl, hallows, -⟩ := hes
    rw [Tally.attempts_concat] at hnotes
    rcases List.eq_nil_or_concat later with rfl | ⟨later', last, rfl⟩
    · obtain ⟨-, hlast⟩ := List.append_inj' hnotes rfl
      cases hlast
      exact ⟨rfl, rfl⟩
    · have hsplit : earlier ++ .failed e :: (later' ++ [last]) = earlier ++ .failed e :: later' ++ [last] := by
        simp
      rw [List.concat_eq_append, hsplit] at hnotes
      obtain ⟨hbefore, -⟩ := List.append_inj' hnotes rfl
      have hmem : Tally.failed e ∈ Tally.attempts n before ++ Tally.attempt n := by rw [hbefore]; simp
      exact absurd (mem_attempts hmem) (hrefused before hallows.2)

end Retry

/-! ### Clients -/

/-- The calls of a client, one after the other: what the caller has of each. A caller reads each body to
    its end. -/
def Exchange.receipts (x : Exchange W) :
    List (Request W × (List (Except Failure Json) → W → W)) → W → List Receipt
  | [], _ => []
  | (request, act) :: calls, w => match x.call request (.toEnd act) w with
    | (w, receipt) => receipt :: receipts x calls w

/-- The same calls, each with a new page for its notes. -/
def Exchange.pages (x : Exchange (Noted W Tally)) :
    List (Request W × (List (Except Failure Json) → W → W)) → W → List (List Tally × Receipt)
  | [], _ => []
  | (request, act) :: calls, w => match x.call request.noted (Use.toEnd act).noted ⟨w, []⟩ with
    | (v, receipt) => (v.notes, receipt) :: pages x calls v.world

theorem Retry.exchange_passive (policy : Policy W) (l : Listener W) (endpoint : Endpoint) (x : Exchange W)
    (request : Request W) (w w' : W) (r : Response W)
    (h : (exchange policy l endpoint x).execute request w = (w', .ok r)) :
    ∃ items, r.body = fun u => (u, items) := by
  rw [exchange_execute] at h
  cases ho : run ⟨endpoint.key, l, x, request⟩ policy w with
  | failed w' e => rw [ho] at h; cases h
  | never w' => rw [ho] at h; cases h
  | primed w' primed resume => rw [ho] at h; cases h; exact ⟨_, rfl⟩

theorem Blueprint.pipeline_within (wire : Wire W) (wire' : Wire (Noted W Tally)) (p : Retry.BasicPolicy)
    (b : Blueprint W) (request : Request W) (act : List (Except Failure Json) → W → W) (w : W) :
    Retry.Within p b.interceptors.length
      (((b.tallied wire p).pipeline wire').call request.noted (Use.toEnd act).noted ⟨w, []⟩).1.notes
      (((b.tallied wire p).pipeline wire').call request.noted (Use.toEnd act).noted ⟨w, []⟩).2 := by
  let act' (seen : List (Except Failure Json)) (v : Noted W Tally) : Noted W Tally := v.act (act seen)
  have hact' : ∀ seen v, (act' seen v).notes = v.notes := fun _ _ => rfl
  have huse : (Use.toEnd act).noted = Use.toEnd act' := rfl
  have hattempt := b.attempt_tallied wire wire' p
  rw [huse]
  cases hl : b.listener with
  | none =>
    have hpipeline : (b.tallied wire p).pipeline wire' = Retry.exchange p.toPolicy
        Listener.CallLog.brief.listener b.endpoint ((b.tallied wire p).attempt wire') := by
      simp only [pipeline, tallied, hl, Option.map_none, Option.getD_none]
    rw [hpipeline]
    exact Retry.exchange_within p (Listener.CallLog.listener_quiet _) b.endpoint hattempt request.noted
      hact' rfl
  | some l =>
    let quiet : Listener (Noted W Tally) := l.noted fun _ => []
    have hpipeline : (b.tallied wire p).pipeline wire' = quiet.exchange b.endpoint.key
        (Retry.exchange p.toPolicy quiet b.endpoint ((b.tallied wire p).attempt wire')) := by
      simp only [pipeline, tallied, hl, Option.map_some, Option.getD_some, quiet]
    obtain ⟨request', act'', v, hact'', hv, hnotes, hreceipt⟩ := Listener.call_toEnd l.noted_quiet
      b.endpoint.key (Retry.exchange_passive p.toPolicy quiet b.endpoint ((b.tallied wire p).attempt wire'))
      request.noted hact' ⟨w, []⟩
    rw [hpipeline, hnotes, hreceipt]
    exact Retry.exchange_within p l.noted_quiet b.endpoint hattempt request' hact'' hv

omit [Ambient W] in
theorem Exchange.pages_of_call (x : Exchange (Noted W Tally)) {P : List Tally → Receipt → Prop}
    (h : ∀ (request : Request W) (act : List (Except Failure Json) → W → W) (w : W),
      P (x.call request.noted (Use.toEnd act).noted ⟨w, []⟩).1.notes
        (x.call request.noted (Use.toEnd act).noted ⟨w, []⟩).2)
    (calls : List (Request W × (List (Except Failure Json) → W → W))) (w : W) :
    ∀ page ∈ x.pages calls w, P page.1 page.2 := by
  induction calls generalizing w with
  | nil => nofun
  | cons call calls ih =>
    obtain ⟨request, act⟩ := call
    intro page hpage
    rcases List.mem_cons.mp hpage with rfl | hrest
    · exact h request act w
    · exact ih _ page hrest

omit [Ambient W] in
theorem Exchange.pages_receipts {x : Exchange (Noted W Tally)} {x' : Exchange W}
    (hx : x.Alike Noted.Over Request.Over x')
    (calls : List (Request W × (List (Except Failure Json) → W → W))) (w : W) :
    (x.pages calls w).map Prod.snd = x'.receipts calls w := by
  induction calls generalizing w with
  | nil => rfl
  | cons call calls ih =>
    obtain ⟨request, act⟩ := call
    have hcall := hx.call (Request.plain_noted request) (Use.toEnd act).noted_alike (v := ⟨w, []⟩) rfl
    obtain ⟨hagree, hreceipt⟩ := hcall
    rw [pages, receipts, List.map_cons, ih, hreceipt, hagree]

namespace Blueprint

/-- The calls of a client built of the parts. -/
def receipts (wire : Wire W) (b : Blueprint W)
    (calls : List (Request W × (List (Except Failure Json) → W → W))) (w : W) : List Receipt :=
  match b.build wire w with
  | (w, client) => client.pipeline.receipts calls w

/-- The same calls with the notes of each. -/
def pages (wire : Wire W) (wire' : Wire (Noted W Tally)) (p : Retry.BasicPolicy) (b : Blueprint W)
    (calls : List (Request W × (List (Except Failure Json) → W → W))) (w : W) : List (List Tally × Receipt) :=
  match (b.tallied wire p).build wire' ⟨w, []⟩ with
  | (v, client) => client.pipeline.pages calls v.world

end Blueprint

/-- Whatever the parts of a client do: each of its calls has the budget of the policy for itself. All
    failures of a call, before its first element and after it, are counted together, and the call fails
    with the first one that is not accepted or comes after the last retry, as it is. Each attempt runs
    through all interceptors once. With the usual filter some failures end a call at once. That the parts
    keep a tally changes nothing of what the caller has. -/
theorem calls_within_budget (wire : Wire W) (wire' : Wire (Noted W Tally)) (p : Retry.BasicPolicy)
    (b : Blueprint W) (calls : List (Request W × (List (Except Failure Json) → W → W))) (w : W) :
    (b.pages wire wire' p calls w).map Prod.snd
        = Blueprint.receipts wire { b with policy := some p.toPolicy } calls w ∧
      ∀ page ∈ b.pages wire wire' p calls w,
        Retry.Within p b.interceptors.length page.1 page.2 ∧
          (p.accepts = Failure.isTransient → ∀ earlier e later, page.1 = earlier ++ .failed e :: later →
            Retry.Hopeless e → later = [] ∧ page.2.failure? = some e) := by
  have halike : ((b.tallied wire p).pipeline wire').Alike Noted.Over Request.Over
      (Blueprint.pipeline wire { b with policy := some p.toPolicy }) :=
    (b.tallied_alike wire wire' p).pipeline Noted.ambient_alike fun r r' h => by cases h; exact ⟨rfl, rfl⟩
  refine ⟨Exchange.pages_receipts halike calls _, fun page hpage => ?_⟩
  have hwithin : Retry.Within p b.interceptors.length page.1 page.2 :=
    Exchange.pages_of_call _ (b.pipeline_within wire wire' p) calls _ page hpage
  exact ⟨hwithin, fun hp earlier e later hnotes he => hwithin.hopeless hp hnotes he⟩

end Courier
