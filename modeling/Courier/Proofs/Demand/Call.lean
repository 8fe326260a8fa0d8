import Courier.Proofs.Demand.Record
import Courier.Proofs.Retry.Call

/-! Calls that pull what is asked for.

    Without a retry policy an item is pulled from the transport when the caller asks for it, and at no other
    time. With one, the first item of each attempt is pulled ahead, and from then on the caller always has
    all but one of the items that were pulled from the attempt (`pulled_on_demand`). -/

namespace Courier

variable {W : Type} {page : W → List Draw} {law : Meter → Nat → Prop} {m m' : Meter} {v w w' : W}

/-! ### Reading by the law -/

section Reading

variable (page : W → List Draw) (law : Meter → Nat → Prop)

/-- The stream was asked in `w`, the meter being at `m`. Whatever it has handed out, the record is lawful,
    and so it is when a caller goes on who writes down what it does. -/
def Step.Obeys : Step W (Except Failure Json) → W → Meter → Prop
  | .done w', w, m => ∃ m', Adds page law w m w' m'
  | .never w', w, m => ∃ m', Adds page law w m w' m'
  | .item w' x more, w, m => ∃ m', Adds page law w m w' m' ∧
    ∀ v, page v = page w' ++ [.got x, .asked] → Obeys (more v) v ((m'.next (.got x)).next .asked)

/-- Asking for the body of a response in a state like `w` leaves the record alone, and reading it is lawful. -/
def Response.Obeys (r : Response W) (w : W) (m : Meter) : Prop := ∀ v, SameView page w v →
  SameView page w (r.body v).1 ∧
    ∀ u, page u = page w ++ [.asked] → ((r.body v).2 u).Obeys page law u (m.next .asked)

end Reading

theorem Step.Obeys.prepend (h : Adds page law v m w m') : ∀ {t : Step W (Except Failure Json)},
    t.Obeys page law w m' → t.Obeys page law v m
  | .done _, ⟨m'', hend⟩ => ⟨m'', h.trans hend⟩
  | .never _, ⟨m'', hend⟩ => ⟨m'', h.trans hend⟩
  | .item _ _ _, ⟨m'', hitem, hmore⟩ => ⟨m'', h.trans hitem, hmore⟩

/-- Showing items to somebody who leaves the record alone changes nothing. -/
theorem Step.Obeys.tap {f : Except Failure Json → W → W} (hf : ∀ x w, SameView page w (f x w)) :
    ∀ {t : Step W (Except Failure Json)} {w : W} {m : Meter}, t.Obeys page law w m → (t.tap f).Obeys page law w m
  | .done _, _, _, h => h
  | .never _, _, _, h => h
  | .item w' x _, _, _, ⟨m', hitem, hmore⟩ => by
    refine ⟨m', hitem.keep (hf x w'), fun v hv => ?_⟩
    rw [← hf x w'] at hv
    exact (hmore v hv).tap hf

/-- However far a caller reads, the record is lawful. -/
theorem Step.Obeys.readBy {r : Reader W (Except Failure Json)} (hr : r.WritesDown page) :
    ∀ {t : Step W (Except Failure Json)} {w : W} {m : Meter}, t.Obeys page law w m →
      ∀ seen, ∃ m', Adds page law w m (t.readBy r seen).1 m'
  | .done _, _, _, h, _ => h
  | .never _, _, _, h, _ => h
  | .item w' x more, w, m, ⟨m', hitem, hmore⟩, seen => by
    rw [Step.readBy]
    cases hv : r (seen ++ [x]) w' with
    | none => exact ⟨m', hitem⟩
    | some v =>
      have hnoted := hr _ _ _ hv
      rw [List.getLast?_concat, List.append_assoc] at hnoted
      have hasked : Adds page law w' m' v ((m'.next (.got x)).next .asked) :=
        ⟨_, hnoted, ⟨trivial, trivial, trivial⟩, rfl⟩
      obtain ⟨m'', hread⟩ := (hmore v hnoted).readBy hr (seen ++ [x])
      exact ⟨m'', hitem.trans (hasked.trans hread)⟩

/-- If each element takes one item, items are pulled as they are asked for. -/
theorem Step.Within.onDemand {k : Nat} : ∀ {t : Step W (Except Failure Json)} {w : W} {m : Meter},
    t.Within (Hands page k) (SameView page) w → m.attempt = k → m.pulled < m.asked →
      t.Obeys page Meter.OnDemand w m
  | .done _, _, m, h, _, _ => ⟨m, .of_same h⟩
  | .never _, _, m, h, _, _ => ⟨m, .of_same h⟩
  | .item w' x more, w, m, ⟨hitem, hmore⟩, hk, hasked => by
    -- an item that is pulled makes up for one that was asked for
    have hpulled : ∃ m', Adds page Meter.OnDemand w m w' m' ∧ m'.attempt = k ∧ m'.pulled ≤ m'.asked := by
      have hone : ∀ y, Pulls page k y w w' → ∃ m', Adds page Meter.OnDemand w m w' m' ∧ m'.attempt = k ∧
          m'.pulled ≤ m'.asked := by
        intro y hy
        refine ⟨_, .one hy ⟨hk.symm, hasked⟩, ?_⟩
        cases y <;> exact ⟨hk, hasked⟩
      cases x with
      | ok j =>
        obtain ⟨j', hj'⟩ := hitem
        exact hone _ hj'
      | error e =>
        rcases hitem with hsame | ⟨y, hy⟩
        · exact ⟨m, .of_same hsame, hk, Nat.le_of_lt hasked⟩
        · exact hone y hy
    obtain ⟨m', hadds, hk', hasked'⟩ := hpulled
    refine ⟨m', hadds, fun v _ => (hmore v).onDemand ?_ ?_⟩
    · cases x <;> exact hk'
    · cases x <;> exact Nat.lt_succ_of_le hasked'

/-! ### Attempts -/

namespace Retry

variable {a : Attempts W} {arity : Arity} {session : Session W} {queue : List Failure} {last : Failure} {n : Nat}

/-- Of the attempt whose response is handed out the first item was pulled and no more. -/
structure Primed.Ahead (page : W → List Draw) (p : Primed W) (m : Meter) : Prop where
  pulled : m.pulled = p.first.toList.length
  given : m.given = 0
  opened : m.closed = false
  rest : p.rest.Within (Hands page m.attempt) (SameView page)
  empty : p.first = none → p.rest = .empty

/-- The outcome came about in `w`, the meter being at `m`, and the record is lawful; and so is the record of
    what follows when the body fails later. -/
def Outcome.Obeys (page : W → List Draw) (arity : Arity) : Outcome W → W → Meter → Prop
  | .failed w' _, w, m => ∃ m', Adds page (Meter.OneAhead arity) w m w' m'
  | .never w', w, m => ∃ m', Adds page (Meter.OneAhead arity) w m w' m'
  | .primed w' p resume, w, m => (∃ m', Adds page (Meter.OneAhead arity) w m w' m' ∧ p.Ahead page m') ∧
    ∀ e v m', m'.Counts (page v) → (resume e v).Obeys page arity v m'

theorem Outcome.Obeys.prepend {o : Outcome W} (h : Adds page (Meter.OneAhead arity) v m w m')
    (ho : o.Obeys page arity w m') : o.Obeys page arity v m := by
  cases o with
  | failed w' e =>
    obtain ⟨m'', hend⟩ := ho
    exact ⟨m'', h.trans hend⟩
  | never w' =>
    obtain ⟨m'', hend⟩ := ho
    exact ⟨m'', h.trans hend⟩
  | primed w' p resume =>
    obtain ⟨⟨m'', hprimed, hahead⟩, hresume⟩ := ho
    exact ⟨⟨m'', h.trans hprimed, hahead⟩, hresume⟩

variable [Ambient W]

/-- Only what runs an attempt writes on the record. -/
structure Attempts.Draws (page : W → List Draw) (a : Attempts W) : Prop where
  ambient : AmbientApart page
  listener : ∀ n w, SameView page w (a.listener.hear n w).1
  inner : a.inner.Draws page (Hands page)
  request : a.request.Within (SameView page)

/-- Reading ahead pulls no more than one item, of the attempt that is sent for it. -/
theorem prime_obeys (ha : a.Draws page) (arity : Arity) (hm : m.Counts (page w)) :
    match prime a.inner a.request w with
    | (w', .ok p) => ∃ m', Adds page (Meter.OneAhead arity) w m w' m' ∧ p.Ahead page m'
    | (w', _) => ∃ m', Adds page (Meter.OneAhead arity) w m w' m' := by
  obtain ⟨hsent, hresponse⟩ := ha.inner a.request ha.request w
  rw [prime]
  rcases hx : a.inner.execute a.request w with ⟨w₁, e | r | _⟩ <;> rw [hx] at hsent hresponse
  · exact ⟨_, .one hsent trivial⟩
  · have hattempt : sends (page w) + 1 = m.attempt + 1 := by rw [hm]
    have hbody := (hresponse r rfl).body w₁
    rw [hattempt] at hbody
    rcases hb : r.body w₁ with ⟨w₂, items⟩
    rw [hb] at hbody
    have hfirst : (items w₂).Within (Hands page (m.attempt + 1)) (SameView page) w₂ := hbody.2 w₂
    have hopened : Adds page (Meter.OneAhead arity) w m w₂ (m.next .sent) :=
      (Adds.one hsent trivial).keep hbody.1
    have hpull : ∀ {x v}, Pulls page (m.attempt + 1) x w₂ v →
        Adds page (Meter.OneAhead arity) w m v ((m.next .sent).next (.pulled (m.attempt + 1) x)) := by
      intro x v hx
      exact hopened.trans (.one hx ⟨rfl, rfl, Nat.le_refl 0, fun _ => rfl⟩)
    simp only [hb]
    rcases hi : items w₂ with w' | ⟨w', e | j, more⟩ | w' <;> rw [hi] at hfirst
    · exact ⟨_, hopened.keep hfirst, rfl, rfl, rfl, fun _ => rfl, fun _ => rfl⟩
    · rcases hfirst.1 with hsame | ⟨x, hx⟩
      · exact ⟨_, hopened.keep hsame⟩
      · exact ⟨_, hpull hx⟩
    · obtain ⟨⟨j', hj'⟩, hmore⟩ := hfirst
      refine ⟨_, hpull hj', rfl, rfl, rfl, hmore, ?_⟩
      intro hnone
      cases hnone
    · exact ⟨_, hopened.keep hfirst⟩
  · exact ⟨_, .one hsent trivial⟩

theorem obeys_of_due (ha : a.Draws page) (hm : m.Counts (page w)) {resume : Failure → W → Outcome W}
    (hr : ∀ e v m', m'.Counts (page v) → (resume e v).Obeys page arity v m') :
    (match prime a.inner a.request w with
      | (w', .ok p) => Outcome.primed w' p resume
      | (w', .error e) => resume e w'
      | (w', .never) => .never w').Obeys page arity w m := by
  have hprimed := prime_obeys ha arity hm
  rcases hp : prime a.inner a.request w with ⟨w', e | p | _⟩ <;> rw [hp] at hprimed
  · obtain ⟨m', hadds⟩ := hprimed
    exact (hr e w' m' (hadds.counts hm)).prepend hadds
  · exact ⟨hprimed, hr⟩
  · exact hprimed

theorem report_same (ha : a.Draws page) (n : Nat) (e : Failure) (w : W) : SameView page w (report a n e w) :=
  ha.ambient.within.record _ _ _ w

/-- Asking the policy pulls nothing. -/
theorem converse_obeys (ha : a.Draws page) : ∀ (session : Session W) (queue : List Failure) (last : Failure)
    (n : Nat) {w : W} {m : Meter}, session.Within (SameView page) → m.Counts (page w) →
      (converse a session queue last n w).Obeys page arity w m
  | .closed, _, _, _, _, m, _, _ => ⟨m, .of_same rfl⟩
  | .await _, [], _, _, _, m, _, _ => ⟨m, .of_same rfl⟩
  | .await next, e :: queue, last, n, _, _, hsession, hm => by
    rw [converse]
    exact converse_obeys ha (next e) queue last n (hsession e) hm
  | .perform effect rest, queue, last, n, w, m, ⟨heffect, hrest⟩, hm => by
    have hacted : Adds page (Meter.OneAhead arity) w m (effect w) m := .of_same (heffect w)
    rw [converse]
    exact (converse_obeys ha (rest (effect w)) queue last n (hrest _) (hacted.counts hm)).prepend hacted
  | .answer (.error _) _, _, _, _, _, m, _, _ => ⟨m, .of_same rfl⟩
  | .answer (.ok ()) rest, queue, last, n, w, m, hrest, hm => by
    have htold : Adds page (Meter.OneAhead arity) w m
        (a.listener.notify (.retryAttempt a.methodKey (n + 1) last) w) m :=
      .of_same (a.listener.notify_same ha.ambient ha.listener _ w)
    rw [converse]
    refine (obeys_of_due ha (htold.counts hm) fun e v m' hm' => ?_).prepend htold
    have hreported : Adds page (Meter.OneAhead arity) v m' (report a (n + 1) e v) m' :=
      .of_same (report_same ha (n + 1) e v)
    exact (converse_obeys ha rest (queue ++ [e]) e (n + 1) hrest (hreported.counts hm')).prepend hreported

theorem run_obeys (ha : a.Draws page) (arity : Arity) {policy : Policy W} (hpolicy : policy.Within (SameView page))
    (hm : m.Counts (page w)) : (run a policy w).Obeys page arity w m := by
  obtain ⟨hopening, hsession⟩ := hpolicy w
  have hopened : Adds page (Meter.OneAhead arity) w m (policy.opening w).1 m := .of_same hopening
  refine (obeys_of_due ha (hopened.counts hm) fun e v m' hm' => ?_).prepend hopened
  have hreported : Adds page (Meter.OneAhead arity) v m' (report a 0 e v) m' := .of_same (report_same ha 0 e v)
  exact (converse_obeys ha _ [e] e 0 hsession (hreported.counts hm')).prepend hreported

/-! ### Bodies of several attempts -/

omit [Ambient W] in
/-- While the body of an attempt is read, the caller has all that was pulled before it asks for more. -/
theorem splice_obeys {k : Nat} {resumed : Failure → W → Step W (Except Failure Json)}
    (hresumed : ∀ e v m', m'.Counts (page v) → (resumed e v).Obeys page (Meter.OneAhead .flux) v m') :
    ∀ {t : Step W (Except Failure Json)} {w : W} {m : Meter}, t.Within (Hands page k) (SameView page) w →
      m.Counts (page w) → m.attempt = k ∧ m.closed = false ∧ m.pulled ≤ m.given →
      (splice resumed t).Obeys page (Meter.OneAhead .flux) w m
  | .done _, _, m, h, _, _ => ⟨m, .of_same h⟩
  | .never _, _, m, h, _, _ => ⟨m, .of_same h⟩
  | .item w' x more, w, m, ⟨hitem, hmore⟩, hm, ⟨hk, hopen, hgiven⟩ => by
    have hpull : ∀ {y}, Pulls page k y w w' →
        Adds page (Meter.OneAhead .flux) w m w' (m.next (.pulled k y)) := by
      intro y hy
      refine .one hy ⟨hk.symm, hopen, hgiven, ?_⟩
      intro hmono
      cases hmono
    cases x with
    | ok j =>
      obtain ⟨j', hj'⟩ := hitem
      have hcounts := (hpull hj').counts hm
      refine ⟨_, hpull hj', fun v hv => ?_⟩
      exact splice_obeys hresumed (hmore v) (hv ▸ hcounts.noted (.ok j)) ⟨hk, hopen, Nat.succ_le_succ hgiven⟩
    | error e =>
      rw [splice]
      rcases hitem with hsame | ⟨y, hy⟩
      · have hadds : Adds page (Meter.OneAhead .flux) w m w' m := .of_same hsame
        exact (hresumed e w' m (hadds.counts hm)).prepend hadds
      · exact (hresumed e w' _ ((hpull hy).counts hm)).prepend (hpull hy)

omit [Ambient W] in
theorem Outcome.Obeys.elements {o : Outcome W} (h : o.Obeys page .flux w m) (hm : m.Counts (page w)) :
    o.elements.Obeys page (Meter.OneAhead .flux) w m := by
  induction o generalizing w m with
  | failed w' e =>
    obtain ⟨m', hend⟩ := h
    exact ⟨m', hend, fun v _ => ⟨_, .of_same rfl⟩⟩
  | never w' => exact h
  | primed w' p resume ih =>
    obtain ⟨⟨m', hprimed, hahead⟩, hresume⟩ := h
    rw [Outcome.elements]
    cases hf : p.first with
    | none =>
      rw [hahead.empty hf]
      exact ⟨m', hprimed⟩
    | some j =>
      have hpulled : m'.pulled = 1 := by rw [hahead.pulled, hf]; rfl
      have hgiven := hahead.given
      refine ⟨m', hprimed, fun v hv => ?_⟩
      refine splice_obeys (fun e v m' hm' => ih e v (hresume e v m' hm') hm') (hahead.rest v)
        (hv ▸ (hprimed.counts hm).noted (.ok j)) ⟨rfl, hahead.opened, ?_⟩
      change m'.pulled ≤ m'.given + 1
      omega

end Retry

/-! ### Executions -/

/-- Whether a response has an item to hand out if it is asked at once: one or none. -/
def Response.pending (r : Response W) (w : W) : Nat := match (r.body w).2 (r.body w).1 with
  | .item _ _ _ => 1
  | _ => 0

/-- What was asked for, if it has come. -/
def Eventual.value? {ε α : Type} : Eventual ε α → Option α
  | .ok a => some a
  | _ => none

/-- What is known of an execution: its record, where the meter stands then, and how many items the response
    has ready, if there is a response. -/
abbrev Early := List Draw → Meter → Option Nat → Prop

/-- An execution in `w` left a lawful record, of which `early` is true, and so does whoever reads the
    response. -/
def LawfulExecution (page : W → List Draw) (law : Meter → Nat → Prop) (early : Early) (w : W) :
    W × Eventual Failure (Response W) → Prop
  | (w', .error _) => ∃ ds, page w' = page w ++ ds ∧ Lawful law (.start (page w)) ds ∧
    early ds ((Meter.start (page w)).read ds) none
  | (w', .never) => ∃ ds, page w' = page w ++ ds ∧ Lawful law (.start (page w)) ds ∧
    early ds ((Meter.start (page w)).read ds) none
  | (w', .ok r) => ∃ ds, page w' = page w ++ ds ∧ Lawful law (.start (page w)) ds ∧
    (∀ v, early ds ((Meter.start (page w)).read ds) (some (r.pending v))) ∧
    r.Obeys page law w' ((Meter.start (page w)).read ds)

variable {early : Early} {request : Request W}

theorem Stream.ofList_obeys : ∀ (items : List (Except Failure Json)) (w : W) (m : Meter),
    (Stream.ofList items w).Obeys page law w m
  | [], _, m => ⟨m, .of_same rfl⟩
  | _ :: items, _, m => ⟨m, .of_same rfl, fun v _ => ofList_obeys items v _⟩

/-- An attempt pulls nothing before the caller asks. -/
theorem Exchange.Draws.lawful {x : Exchange W} (hx : x.Draws page (Hands page))
    (hrequest : request.Within (SameView page)) (w : W) :
    LawfulExecution page Meter.OnDemand (fun ds _ _ => ds = [.sent]) w (x.execute request w) := by
  obtain ⟨hsent, hresponse⟩ := hx request hrequest w
  have hlawful : Lawful Meter.OnDemand (.start (page w)) [.sent] := ⟨trivial, trivial⟩
  rcases hr : x.execute request w with ⟨w', e | r | _⟩ <;> rw [hr] at hsent hresponse
  · exact ⟨[.sent], hsent, hlawful, rfl⟩
  · have hwithin := hresponse r rfl
    refine ⟨[.sent], hsent, hlawful, fun _ => rfl, fun v hv => ?_⟩
    exact ⟨SameView.changes.trans hv (hwithin.body v).1, fun u _ =>
      ((hwithin.body v).2 u).onDemand rfl Nat.zero_lt_one⟩
  · exact ⟨[.sent], hsent, hlawful, rfl⟩

namespace Retry

variable [Ambient W] {a : Attempts W}

omit [Ambient W] in
/-- The item that was pulled ahead is ready for the caller. -/
theorem toResponse_pending (arity : Arity) {p : Primed W} (hempty : p.first = none → p.rest = .empty)
    (resume : Failure → W → Outcome W) (v : W) :
    (toResponse arity p resume).pending v = p.first.toList.length := by
  have hbody : (toResponse arity p resume).body v = (v, p.items arity resume) := rfl
  rw [Response.pending, hbody]
  cases hf : p.first with
  | none => cases arity <;> simp [Primed.items, Outcome.elements, hf, hempty hf, Stream.ofList, Stream.empty, splice]
  | some j => cases arity <;> simp [Primed.items, Outcome.elements, hf, Stream.ofList]

/-- Attempts that are made anew pull one item ahead, and that one is ready for the caller. -/
theorem exchange_lawful (ha : a.Draws page) {policy : Policy W} (hpolicy : policy.Within (SameView page))
    {endpoint : Endpoint} (hkey : endpoint.key = a.methodKey) (w : W) :
    LawfulExecution page (Meter.OneAhead endpoint.arity) (fun _ m n => ∀ k ∈ n, m.pulled = k) w
      ((exchange policy a.listener endpoint a.inner).execute a.request w) := by
  have hrun := run_obeys ha endpoint.arity hpolicy (w := w) (m := .start (page w)) rfl
  rw [exchange_execute, hkey]
  cases ho : run a policy w with
  | failed w' e =>
    rw [ho] at hrun
    obtain ⟨m', ds, hpage, hlawful, -⟩ := hrun
    refine ⟨ds, hpage, hlawful, ?_⟩
    intro k hk
    cases hk
  | never w' =>
    rw [ho] at hrun
    obtain ⟨m', ds, hpage, hlawful, -⟩ := hrun
    refine ⟨ds, hpage, hlawful, ?_⟩
    intro k hk
    cases hk
  | primed w' p resume =>
    rw [ho] at hrun
    obtain ⟨⟨m', hprimed, hahead⟩, hresume⟩ := hrun
    have hcounts : m'.Counts (page w') := hprimed.counts rfl
    obtain ⟨ds, hpage, hlawful, rfl⟩ := hprimed
    refine ⟨ds, hpage, hlawful, fun v k hk => ?_, fun v hv => ⟨hv, fun u hu => ?_⟩⟩
    · obtain rfl := Option.some.inj hk
      rw [toResponse_pending _ hahead.empty, hahead.pulled]
    · have hbody : (toResponse endpoint.arity p resume).body v = (v, p.items endpoint.arity resume) := rfl
      rw [hbody]
      rcases harity : endpoint.arity
      · exact Stream.ofList_obeys _ u _
      · -- asking is no more than another entry behind the item that was pulled ahead
        rw [harity] at hresume
        have hprimed : (Outcome.primed u p resume).Obeys page .flux u
            (((Meter.start (page w)).read ds).next .asked) :=
          ⟨⟨_, .of_same rfl, hahead.pulled, hahead.given, hahead.opened, hahead.rest, hahead.empty⟩, hresume⟩
        exact hprimed.elements (hu ▸ hcounts.asked)

end Retry

variable [Ambient W]

/-- A listener who leaves the record alone changes nothing, neither at the execution nor while the response
    is read. -/
theorem Listener.exchange_lawful (hambient : AmbientApart page) {l : Listener W}
    (hl : ∀ n w, SameView page w (l.hear n w).1) {x : Exchange W}
    (hx : ∀ call w, LawfulExecution page law early w (x.execute (l.watchRequest call request) w)) (key : String)
    (w : W) : LawfulExecution page law early w ((l.exchange key x).execute request w) := by
  have htold : ∀ n w, SameView page w (l.notify n w) := l.notify_same hambient hl
  rcases hstart : CallContext.start key request w with ⟨w₁, call⟩
  have hstarted : page w = page (l.notify (.requestStarted call request) w₁) := by
    have hfresh : (Ambient.freshId w).1 = w₁ := congrArg Prod.fst hstart
    exact Eq.trans (hfresh ▸ hambient.freshId w) (htold _ _)
  have hexecuted := hx call (l.notify (.requestStarted call request) w₁)
  rw [exchange_execute, hstart]
  simp only
  rcases hr : x.execute (l.watchRequest call request) (l.notify (.requestStarted call request) w₁) with
    ⟨w', e | r | _⟩ <;> rw [hr] at hexecuted
  · obtain ⟨ds, hpage, hlawful, hearly⟩ := hexecuted
    rw [← hstarted] at hpage hlawful hearly
    exact ⟨ds, (htold _ w').symm.trans hpage, hlawful, hearly⟩
  · obtain ⟨ds, hpage, hlawful, hearly, hread⟩ := hexecuted
    rw [← hstarted] at hpage hlawful hearly hread
    refine ⟨ds, (htold _ w').symm.trans hpage, hlawful, fun v => ?_, fun v hv => ?_⟩
    · have hpending : (l.watchResponse call r).pending v = r.pending v := by
        simp only [Response.pending, watchResponse, Stream.tap]
        cases (r.body v).2 (r.body v).1 <;> rfl
      rw [hpending]
      exact hearly v
    · obtain ⟨hbody, hitems⟩ := hread v (Eq.trans (htold _ w') hv)
      refine ⟨Eq.trans (htold _ w').symm hbody, fun u hu => (hitems u ?_).tap fun item w => ?_⟩
      · rw [hu, ← htold]
      · cases item <;> exact htold _ w
  · obtain ⟨ds, hpage, hlawful, hearly⟩ := hexecuted
    rw [← hstarted] at hpage hlawful hearly
    exact ⟨ds, hpage, hlawful, hearly⟩

omit [Ambient W] in
/-- Whatever is read of a response, the record goes on lawfully behind the execution. -/
theorem LawfulExecution.call {x : Exchange W} {reader : Reader W (Except Failure Json)}
    (hreader : reader.WritesDown page) (h : LawfulExecution page law early w (x.execute request w)) : ∃ es es',
      page (x.execute request w).1 = page w ++ es ∧
      page (x.call request (.body reader) w).1 = page w ++ (es ++ es') ∧ Lawful law (.start (page w)) (es ++ es') ∧
      early es ((Meter.start (page w)).read es)
        ((x.execute request w).2.value?.map fun r => r.pending (x.execute request w).1) := by
  rcases hx : x.execute request w with ⟨w', e | r | _⟩ <;> rw [hx] at h
  · obtain ⟨ds, hpage, hlawful, hearly⟩ := h
    rw [Exchange.call_of_error hx]
    exact ⟨ds, [], hpage, by rw [List.append_nil]; exact hpage, by rw [List.append_nil]; exact hlawful, hearly⟩
  · obtain ⟨ds, hpage, hlawful, hearly, hread⟩ := h
    obtain ⟨hbody, hitems⟩ := hread w' rfl
    rw [Exchange.call_of_ok hx]
    have hserved : ∃ ds', page (r.serve (.body reader) w').1 = page w' ++ ds' ∧
        Lawful law ((Meter.start (page w)).read ds) ds' := by
      simp only [Response.serve, Stream.readBy]
      cases hv : reader [] (r.body w').1 with
      | none => exact ⟨[], hbody.symm.trans (List.append_nil _).symm, trivial⟩
      | some v =>
        have hasked := hreader _ _ _ hv
        rw [List.getLast?_nil, Option.map_none, Option.toList_none, List.append_nil, ← hbody] at hasked
        obtain ⟨m', ds', hpage', hlawful', -⟩ := (hitems v hasked).readBy hreader []
        refine ⟨.asked :: ds', ?_, trivial, hlawful'⟩
        rw [hpage', hasked, List.append_assoc]
        rfl
    obtain ⟨ds', hpage', hlawful'⟩ := hserved
    exact ⟨ds, ds', hpage, by rw [hpage', hpage, List.append_assoc], hlawful.append hlawful', hearly w'⟩
  · obtain ⟨ds, hpage, hlawful, hearly⟩ := h
    rw [Exchange.call_of_never hx]
    exact ⟨ds, [], hpage, by rw [List.append_nil]; exact hpage, by rw [List.append_nil]; exact hlawful, hearly⟩

/-- What is true of executions with and without retries stays true in the pipeline. -/
theorem Blueprint.Draws.pipeline (hambient : AmbientApart page) {wire : Wire W} {b : Blueprint W}
    (hb : b.Draws page wire) (hrequest : request.Within (SameView page))
    (h : ∀ l : Listener W, (∀ n w, SameView page w (l.hear n w).1) → ∀ request : Request W,
      request.Within (SameView page) → ∀ w, LawfulExecution page law early w ((b.retried wire l).execute request w))
    (w : W) : LawfulExecution page law early w ((b.pipeline wire).execute request w) := by
  cases hlistener : b.listener with
  | none =>
    rw [b.pipeline_unwatched wire hlistener]
    exact h _ (Listener.CallLog.brief.hear_same hambient) request hrequest w
  | some l =>
    have hl := hb.listener l hlistener
    rw [b.pipeline_watched wire hlistener]
    exact l.exchange_lawful hambient hl
      (fun call w => h l hl _ (l.watchRequest_same hambient hl call hrequest) w) b.endpoint.key w

/-- No item is pulled from a transport that nobody wants. Without a retry policy, executing a request pulls
    nothing, and at every moment no more items were pulled than the caller has asked for. With a policy, at
    every moment at most one item more was pulled from the body of the last attempt than the caller has got
    elements of it, and at most one at all if there is but one result; items are pulled from the last attempt
    only, none behind a failure; and when the request was executed, exactly the item was pulled that the
    response has ready, if it has one. -/
theorem pulled_on_demand (hambient : AmbientApart page) {wire : Wire W} {b : Blueprint W} (hb : b.Draws page wire)
    (hrequest : request.Within (SameView page)) {reader : Reader W (Except Failure Json)}
    (hreader : reader.WritesDown page) (w₀ w : W) :
    let pipeline := (b.build wire w₀).2.pipeline
    let executed := pipeline.execute request w
    let start := Meter.start (page w)
    ∃ es es', page executed.1 = page w ++ es ∧
      page (pipeline.call request (.body reader) w).1 = page w ++ (es ++ es') ∧
      (b.policy = none → es = [.sent] ∧
        ∀ ds, ds <+: es ++ es' → (start.read ds).pulled ≤ (start.read ds).asked) ∧
      (b.policy.isSome →
        (∀ ds, ds <+: es ++ es' → (start.read ds).pulled ≤ (start.read ds).given + 1 ∧
          (b.endpoint.arity = .mono → (start.read ds).pulled ≤ 1)) ∧
        (∀ ds k x, ds ++ [.pulled k x] <+: es ++ es' →
          k = (start.read ds).attempt ∧ (start.read ds).closed = false) ∧
        ∀ r, executed.2 = .ok r → (start.read es).pulled = r.pending executed.1) := by
  intro pipeline executed start
  cases hp : b.policy with
  | none =>
    have hexecuted : LawfulExecution page Meter.OnDemand (fun ds _ _ => ds = [.sent]) w
        (pipeline.execute request w) := by
      refine hb.pipeline hambient hrequest (fun l _ request hrequest w => ?_) w
      rw [Blueprint.retried, hp]
      exact (hb.attempt hambient).lawful hrequest w
    obtain ⟨es, es', hsent, hread, hlawful, hearly⟩ := hexecuted.call hreader
    refine ⟨es, es', hsent, hread, fun _ => ⟨hearly, ?_⟩, ?_⟩
    · rintro ds ⟨more, hds⟩
      rw [← hds] at hlawful
      exact Meter.onDemand_bound hlawful.before (Nat.le_refl 0)
    · intro hsome
      cases hsome
  | some p =>
    have hexecuted : LawfulExecution page (Meter.OneAhead b.endpoint.arity)
        (fun _ m n => ∀ k ∈ n, m.pulled = k) w (pipeline.execute request w) := by
      refine hb.pipeline hambient hrequest (fun l hl request hrequest w => ?_) w
      rw [Blueprint.retried, hp]
      have hparts : Retry.Attempts.Draws page ⟨b.endpoint.key, l, b.attempt wire, request⟩ :=
        ⟨hambient, hl, hb.attempt hambient, hrequest⟩
      exact Retry.exchange_lawful hparts (hb.policy p hp) rfl w
    obtain ⟨es, es', hsent, hread, hlawful, hearly⟩ := hexecuted.call hreader
    refine ⟨es, es', hsent, hread, ?_, fun _ => ⟨?_, ?_, ?_⟩⟩
    · intro hnone
      cases hnone
    · rintro ds ⟨more, hds⟩
      rw [← hds] at hlawful
      exact Meter.oneAhead_bound hlawful.before ⟨Nat.zero_le _, fun _ => Nat.zero_le _⟩
    · rintro ds k x ⟨more, hds⟩
      rw [← hds, List.append_assoc] at hlawful
      obtain ⟨hattempt, hopen, -⟩ := hlawful.behind.1
      exact ⟨hattempt, hopen⟩
    · intro r hr
      refine hearly _ ?_
      rw [show (pipeline.execute request w).2 = .ok r from hr]
      rfl

/-! ### A call on a tape -/

/-- Surroundings with nothing but a record. -/
structure Tape where
  draws : List Draw

namespace Tape

instance : Ambient Tape where
  record _ _ _ t := t
  pause _ t := t
  elapsed _ := .zero
  calendar _ := 0
  freshId t := (t, "")

/-- The items of an attempt's body. -/
def items (k : Nat) : List (Except Failure Json) → Stream Tape (Except Failure Json)
  | [] => .empty
  | x :: xs => fun t => .item ⟨t.draws ++ [.pulled k x]⟩ x (items k xs)

/-- A transport whose attempts have these bodies, one after the other. -/
def transport (bodies : List (List (Except Failure Json))) : Exchange Tape where
  shown := "tape"
  execute _ t := (⟨t.draws ++ [.sent]⟩, .ok ⟨200, [],
    fun u => (u, items (sends t.draws + 1) (bodies.getD (sends t.draws) [])), fun u => (u, .ok [])⟩)

/-- Reads to the end and writes down what it does. -/
def reader : Reader Tape (Except Failure Json) := fun seen t =>
  some ⟨t.draws ++ (seen.getLast?.map Draw.got).toList ++ [.asked]⟩

theorem items_within (k : Nat) : ∀ xs : List (Except Failure Json),
    (items k xs).Within (Pulls draws k) (SameView draws)
  | [] => fun _ => rfl
  | _ :: xs => fun _ => ⟨rfl, items_within k xs⟩

theorem ambient_apart : AmbientApart draws := ⟨⟨fun _ _ _ _ => rfl, fun _ _ => rfl⟩, fun _ => rfl⟩

/-- Asks for many numbers, with one retry; the body of the first attempt breaks. -/
def numbers : Blueprint Tape :=
  { Blueprint.ofEndpoint ⟨"numbers", .flux⟩ with
    transport := some (transport [
      [.ok (.ofNat 1), .error (.transport .body "reset"), .ok (.ofNat 3)], [.ok (.ofNat 2)]])
    mappers := [.ignore404]
    policy := some (Retry.BasicPolicy.transient 1).toPolicy
    listener := some Listener.CallLog.verbose.listener }

theorem numbers_draws (wire : Wire Tape) : numbers.Draws draws wire where
  transport _ _ t := by
    refine ⟨rfl, fun r hr => ?_⟩
    cases hr
    exact ⟨fun u => ⟨rfl, items_within _ _⟩, fun _ => rfl⟩
  interceptors := List.forall_mem_nil _
  rules := List.forall_mem_nil _
  mappers := List.forall_mem_singleton.mpr fun _ => Mapper.ignore404_within SameView.changes
  policy p hp := by
    obtain rfl := Option.some.inj hp
    exact Retry.BasicPolicy.toPolicy_within SameView.changes ambient_apart.within _
  listener l hl := by
    obtain rfl := Option.some.inj hl
    exact Listener.CallLog.verbose.hear_same ambient_apart

/-- A request for them. -/
def query : Request Tape := Request.make .get ⟨"http", none, false, "/", none, none⟩

theorem reader_writes_down : reader.WritesDown draws := by
  intro seen t t' h
  cases h
  rfl

end Tape

open Tape in
/-- Behind the failure of the first attempt nothing more of it is pulled. -/
theorem draws_of_numbers :
    let pipeline := (numbers.build .deaf ⟨[]⟩).2.pipeline
    let executed := pipeline.execute query ⟨[]⟩
    let start := Meter.start []
    (∃ es es', executed.1.draws = [] ++ es ∧
      (pipeline.call query (.body reader) ⟨[]⟩).1.draws = [] ++ (es ++ es') ∧
      (numbers.policy = none → es = [.sent] ∧
        ∀ ds, ds <+: es ++ es' → (start.read ds).pulled ≤ (start.read ds).asked) ∧
      (numbers.policy.isSome →
        (∀ ds, ds <+: es ++ es' → (start.read ds).pulled ≤ (start.read ds).given + 1 ∧
          (numbers.endpoint.arity = .mono → (start.read ds).pulled ≤ 1)) ∧
        (∀ ds k x, ds ++ [.pulled k x] <+: es ++ es' →
          k = (start.read ds).attempt ∧ (start.read ds).closed = false) ∧
        ∀ r, executed.2 = .ok r → (start.read es).pulled = r.pending executed.1)) ∧
    executed.1.draws = [.sent, .pulled 1 (.ok (.ofNat 1))] ∧
    (pipeline.call query (.body reader) ⟨[]⟩).1.draws = [.sent, .pulled 1 (.ok (.ofNat 1)), .asked,
      .got (.ok (.ofNat 1)), .asked, .pulled 1 (.error (.transport .body "reset")), .sent,
      .pulled 2 (.ok (.ofNat 2)), .got (.ok (.ofNat 2)), .asked] := by
  refine ⟨?_, rfl, rfl⟩
  have hrequest : query.Within (SameView draws) := by
    intro body hbody
    cases hbody
  exact pulled_on_demand ambient_apart (numbers_draws .deaf) hrequest reader_writes_down ⟨[]⟩ ⟨[]⟩

end Courier
