import Courier.Proofs.Listener.Page
import Courier.Proofs.Retry.Call

/-! Accounts of calls.

    A listener writes on a page of the surroundings that nobody else writes on. What a client with retries
    adds to the page during a call is an account of that call, from its request to the last element that
    the caller has read, or to where the call waits for good. Behind the account there are only chunks of
    the request's body, read by somebody who has kept the request (`call_accounted`). -/

namespace Courier

variable {W E : Type}

/-! ### Accounts -/

/-- Whether a notice tells that a call starts. -/
def Notice.starts : Notice W → Bool
  | .requestStarted _ _ => true
  | _ => false

/-- Whether a notice tells of a response. -/
def Notice.answers : Notice W → Bool
  | .responseReceived _ _ _ _ => true
  | _ => false

/-- The number of the retry that a notice tells of. -/
def Notice.retry? : Notice W → Option Nat
  | .retryAttempt _ retry _ => some retry
  | _ => none

/-- The element that a notice tells of. -/
def Notice.element? : Notice W → Option Json
  | .bodyElement _ j _ => some j
  | _ => none

/-- The failure in place of a response or of an element that a notice tells of. -/
def Notice.error? : Notice W → Option Failure
  | .errorReceived _ e _ => some e
  | _ => none

/-- What is heard between the steps that a caller sees: a request body is being read, or there is to be
    another attempt. -/
inductive Notice.Between (call : CallContext) : Notice W → Prop
  | requestBody (chunk : Bytes) : Between call (.requestBody call chunk)
  | retryAttempt (retry : Nat) (e : Failure) : Between call (.retryAttempt call.methodKey retry e)

/-- What is heard while a caller reads a body, and the items it has then. Behind a failure nothing is
    heard. -/
inductive BodyAccount (call : CallContext) : List (Notice W) → List (Except Failure Json) → Prop
  | stopped : BodyAccount call [] []
  | between {n ns items} : n.Between call → BodyAccount call ns items → BodyAccount call (n :: ns) items
  | element {ns items} (j : Json) (elapsed : Duration) : BodyAccount call ns items →
      BodyAccount call (.bodyElement call j elapsed :: ns) (.ok j :: items)
  | error (e : Failure) (elapsed : Duration) :
      BodyAccount call [.errorReceived call e elapsed] [.error e]

/-- What is heard of a call, and what the caller has of it. -/
inductive Account (call : CallContext) (request : Request W) : List (Notice W) → Receipt → Prop
  | waiting {ns} : (∀ n ∈ ns, n.Between call) →
      Account call request (.requestStarted call request :: ns) .waiting
  | refused {ns} (e : Failure) (elapsed : Duration) : (∀ n ∈ ns, n.Between call) →
      Account call request (.requestStarted call request :: (ns ++ [.errorReceived call e elapsed])) (.refused e)
  | answered {ns ns' got} (status : Nat) (headers : Http.Headers) (elapsed : Duration) :
      (∀ n ∈ ns, n.Between call) → BodyAccount call ns' got.items →
      Account call request
        (.requestStarted call request :: (ns ++ .responseReceived call status headers elapsed :: ns'))
        (.response status headers (.items got))

/-- The elements that a caller has. -/
def Receipt.elements : Receipt → List Json
  | .response _ _ (.items got) => got.items.filterMap Except.toOption
  | _ => []

section Accounts

variable {call : CallContext} {request : Request W} {ns : List (Notice W)} {items : List (Except Failure Json)}

theorem Notice.Between.untold {n : Notice W} (h : n.Between call) : n.starts = false ∧ n.answers = false ∧
    n.element? = none ∧ n.error? = none := by
  cases h <;> exact ⟨rfl, rfl, rfl, rfl⟩

/-- Between two steps nothing is heard that a caller has. -/
theorem Notice.untold_of_between (h : ∀ n ∈ ns, Notice.Between call n) : ns.countP Notice.starts = 0 ∧
    ns.countP Notice.answers = 0 ∧ ns.filterMap Notice.element? = [] ∧ ns.filterMap Notice.error? = [] :=
  ⟨List.countP_eq_zero.mpr fun n hn => Bool.not_eq_true _ ▸ (h n hn).untold.1,
    List.countP_eq_zero.mpr fun n hn => Bool.not_eq_true _ ▸ (h n hn).untold.2.1,
    List.filterMap_eq_nil_iff.mpr fun n hn => (h n hn).untold.2.2.1,
    List.filterMap_eq_nil_iff.mpr fun n hn => (h n hn).untold.2.2.2⟩

theorem BodyAccount.append (h : BodyAccount call ns items) : ∀ {before : List (Notice W)},
    (∀ n ∈ before, Notice.Between call n) → BodyAccount call (before ++ ns) items
  | [], _ => h
  | _ :: _, hbefore => by
    obtain ⟨hn, hbefore⟩ := List.forall_mem_cons.mp hbefore
    exact .between hn (h.append hbefore)

/-- While a body is read, neither the start of a call nor a response is heard of. -/
theorem BodyAccount.untold (h : BodyAccount call ns items) :
    ns.countP Notice.starts = 0 ∧ ns.countP Notice.answers = 0 := by
  induction h with
  | stopped => exact ⟨rfl, rfl⟩
  | between hn _ ih =>
    obtain ⟨hstarts, hanswers, -⟩ := hn.untold
    exact ⟨by rw [List.countP_cons, hstarts, ih.1]; rfl, by rw [List.countP_cons, hanswers, ih.2]; rfl⟩
  | element j elapsed _ ih => exact ih
  | error e elapsed => exact ⟨rfl, rfl⟩

theorem BodyAccount.elements (h : BodyAccount call ns items) :
    ns.filterMap Notice.element? = items.filterMap Except.toOption := by
  induction h with
  | stopped => rfl
  | between hn _ ih => rw [List.filterMap_cons_none hn.untold.2.2.1, ih]
  | element j elapsed _ ih => exact congrArg (j :: ·) ih
  | error e elapsed => rfl

/-- The failure that is heard of is the last item. -/
theorem BodyAccount.failure (status : Nat) (headers : Http.Headers) (waiting : Bool)
    (h : BodyAccount call ns items) :
    ns.filterMap Notice.error? = (Receipt.response status headers (.items ⟨items, waiting⟩)).failure?.toList := by
  induction h with
  | stopped => rfl
  | between hn _ ih => rw [List.filterMap_cons_none hn.untold.2.2.2, ih]
  | @element ns items j elapsed _ ih =>
    rw [List.filterMap_cons_none rfl, ih]
    cases items with
    | nil => rfl
    | cons item items => simp only [Receipt.failure?, List.getLast?_cons_cons]
  | error e elapsed => rfl

/-- The start of a call is heard of once and its response at most once; the elements and the failure that
    are heard of are those that the caller has. -/
theorem Account.heard {receipt : Receipt} (h : Account call request ns receipt) :
    ns.countP Notice.starts = 1 ∧ ns.countP Notice.answers ≤ 1 ∧
      ns.filterMap Notice.element? = receipt.elements ∧
      ns.filterMap Notice.error? = receipt.failure?.toList := by
  cases h with
  | waiting hbetween =>
    obtain ⟨hstarts, hanswers, helements, herrors⟩ := Notice.untold_of_between hbetween
    simp [Notice.starts, Notice.answers, Notice.element?, Notice.error?, List.countP_cons, List.filterMap_cons,
      hstarts, hanswers, helements, herrors, Receipt.elements, Receipt.failure?]
  | @refused before e elapsed hbefore =>
    obtain ⟨hstarts, hanswers, helements, herrors⟩ := Notice.untold_of_between hbefore
    simp [Notice.starts, Notice.answers, Notice.element?, Notice.error?, List.countP_cons, List.countP_append,
      List.filterMap_cons, List.filterMap_append, hstarts, hanswers, helements, herrors, Receipt.elements,
      Receipt.failure?]
  | @answered before later got status headers elapsed hbefore hbody =>
    obtain ⟨hstarts, hanswers, helements, herrors⟩ := Notice.untold_of_between hbefore
    obtain ⟨hstarts', hanswers'⟩ := hbody.untold
    simp [Notice.starts, Notice.answers, Notice.element?, Notice.error?, List.countP_cons, List.countP_append,
      List.filterMap_cons, List.filterMap_append, hstarts, hanswers, helements, herrors, hstarts', hanswers',
      Receipt.elements, hbody.elements, hbody.failure status headers got.waiting]

end Accounts

/-! ### What is written between two steps -/

section Between

variable (page : W → List E) (tell : Notice W → E) (call : CallContext)

/-- Chunks of the request body are written on the page. -/
def Sends (w w' : W) : Prop := ∃ chunks : List Bytes, Writes page tell (chunks.map (.requestBody call)) w w'

/-- What is heard between two steps is written on the page, with the retries behind number `k` up to
    number `n`. -/
def Passes (k n : Nat) (w w' : W) : Prop := ∃ ns d, (∀ m ∈ ns, Notice.Between call m) ∧
  ns.filterMap Notice.retry? = List.range' (k + 1) d ∧ n = k + d ∧ Writes page tell ns w w'

end Between

variable {page : W → List E} {tell : Notice W → E} {call : CallContext} {may : W → W → Prop} {k m n : Nat}
  {u v w w' : W} {ns ns' : List (Notice W)}

/-- Behind what has been written there are chunks. -/
theorem Sends.behind (h : Writes page tell ns u v) : Sends page tell call v w →
    ∃ chunks : List Bytes, Writes page tell (ns ++ chunks.map (.requestBody call)) u w
  | ⟨chunks, h'⟩ => ⟨chunks, h.trans h'⟩

theorem Sends.sparing : Sparing page (Sends page tell call) where
  changes := by
    refine ⟨fun w => ⟨[], .of_same rfl⟩, fun ⟨chunks, h⟩ ⟨chunks', h'⟩ => ⟨chunks ++ chunks', ?_⟩⟩
    rw [List.map_append]
    exact h.trans h'
  same w w' h := ⟨[], .of_same h⟩

namespace Passes

theorem of_same (h : SameView page w w') : Passes page tell call k k w w' :=
  ⟨[], 0, fun _ hm => absurd hm List.not_mem_nil, rfl, rfl, .of_same h⟩

theorem of_sends : Sends page tell call w w' → Passes page tell call k k w w'
  | ⟨chunks, h⟩ => by
    refine ⟨_, 0, List.forall_mem_map.mpr fun chunk _ => .requestBody chunk, ?_, rfl, h⟩
    rw [List.filterMap_map]
    exact List.filterMap_eq_nil_iff.mpr fun _ _ => rfl

theorem of_retry (e : Failure) (h : Writes page tell [.retryAttempt call.methodKey (k + 1) e] w w') :
    Passes page tell call k (k + 1) w w' :=
  ⟨_, 1, List.forall_mem_singleton.mpr (.retryAttempt _ e), rfl, rfl, h⟩

theorem trans : Passes page tell call k n u v → Passes page tell call n m v w → Passes page tell call k m u w
  | ⟨ns, d, hbetween, hretries, hn, h⟩, ⟨ns', d', hbetween', hretries', hm, h'⟩ => by
    refine ⟨ns ++ ns', d + d', List.forall_mem_append.mpr ⟨hbetween, hbetween'⟩, ?_, by omega, h.trans h'⟩
    have hfrom : n + 1 = k + 1 + d := by omega
    rw [List.filterMap_append, hretries, hretries', hfrom, List.range'_append_1]

end Passes

/-- What is written while a caller reads a body from `w` on and gets these items, `k` retries having been
    told of. Behind that there are only chunks, and nothing if nobody keeps the request. -/
def ReadOn (page : W → List E) (tell : Notice W → E) (call : CallContext)
    (reader : Reader W (Except Failure Json)) (k : Nat) (w w' : W) (items : List (Except Failure Json)) : Prop :=
  ∃ ns d ended, BodyAccount call ns items ∧ ns.filterMap Notice.retry? = List.range' (k + 1) d ∧
    Writes page tell ns w ended ∧ Sends page tell call ended w' ∧
    (reader.Releases page → SameView page ended w')

namespace ReadOn

variable {reader : Reader W (Except Failure Json)} {items : List (Except Failure Json)}

theorem stopped : ReadOn page tell call reader k w w [] :=
  ⟨[], 0, w, .stopped, rfl, .of_same rfl, Sends.sparing.changes.refl w, fun _ => rfl⟩

theorem prepend (h : Passes page tell call k n u v) (hread : ReadOn page tell call reader n v w items) :
    ReadOn page tell call reader k u w items := by
  obtain ⟨before, d, hbetween, hretries, hn, hpassed⟩ := h
  obtain ⟨ns, d', ended, haccount, hretries', hpage, hbehind⟩ := hread
  refine ⟨before ++ ns, d + d', ended, haccount.append hbetween, ?_, hpassed.trans hpage, hbehind⟩
  have hfrom : n + 1 = k + 1 + d := by omega
  rw [List.filterMap_append, hretries, hretries', hfrom, List.range'_append_1]

theorem element {j : Json} {elapsed : Duration} (htold : Writes page tell [.bodyElement call j elapsed] u v)
    (hread : ReadOn page tell call reader k v w items) : ReadOn page tell call reader k u w (.ok j :: items) := by
  obtain ⟨ns, d, ended, haccount, hretries, hpage, hbehind⟩ := hread
  exact ⟨_, d, ended, haccount.element j elapsed, hretries, htold.trans hpage, hbehind⟩

theorem failed {e : Failure} {elapsed : Duration} (htold : Writes page tell [.errorReceived call e elapsed] u v)
    (hsent : Sends page tell call v w) (hreleased : reader.Releases page → SameView page v w) :
    ReadOn page tell call reader k u w [.error e] :=
  ⟨_, 0, v, .error e elapsed, rfl, htold, hsent, hreleased⟩

end ReadOn

section Listeners

variable [Ambient W] {l : Listener W} {request : Request W}

/-- The hook of a listener writes the first chunk of each subscription on the page. -/
theorem Listener.watchRequest_sends (hlog : LogApart page) (hl : l.WritesDown page tell)
    (hrequest : request.Within (SameView page)) : (l.watchRequest call request).Within (Sends page tell call) := by
  intro body hbody tap htap chunk w
  obtain ⟨body, hmem, rfl⟩ := Option.map_eq_some_iff.mp hbody
  rcases List.mem_append.mp htap with hown | hhook
  · exact Sends.sparing.same _ _ (hrequest body hmem tap hown chunk w)
  · rw [List.mem_singleton.mp hhook]
    exact ⟨[chunk], hl.notify hlog _ w⟩

/-- Whoever has a request that is watched may tell of a chunk of its body. -/
theorem Listener.watchRequest_meanwhile (l : Listener W) {body : Body W} (hbody : request.body = some body)
    (chunk : Bytes) (w : W) :
    (l.watchRequest call request).Meanwhile page w (l.notify (.requestBody call chunk) w) := by
  have hwatched : (l.watchRequest call request).body
      = some (body.tapFirst fun chunk => l.notify (.requestBody call chunk)) := by
    rw [watchRequest, hbody]
    rfl
  exact .hook chunk w hwatched (List.mem_append_right _ (List.mem_singleton_self _))

end Listeners

/-! ### Attempts and their body -/

namespace Retry

section Phases

variable (page : W → List E) (tell : Notice W → E) (call : CallContext)

/-- Where a call stands, `k` retries having been told of in `base`: all retries since then have been told of
    with their numbers, and what is to come writes only what hooks do. -/
def Accounted (k : Nat) (base w : W) : Phase W → Prop
  | .due session _ n => Passes page tell call k n base w ∧ session.Within (Sends page tell call)
  | .reading items session _ n => Passes page tell call k n base w ∧
    items.Within (fun _ => Sends page tell call) (Sends page tell call) ∧ session.Within (Sends page tell call)
  | .asking session _ _ n => Passes page tell call k n base w ∧ session.Within (Sends page tell call)
  | _ => ∃ n, Passes page tell call k n base w

/-- Reading on, `k` retries having been told of when the answer was asked for in `w`. Behind a failure
    there is nothing. -/
def Continued (k : Nat) : Step W (Except Failure Json) → W → Prop
  | .done w', w => ∃ n, Passes page tell call k n w w'
  | .never w', w => ∃ n, Passes page tell call k n w w'
  | .item w' (.error _) more, w => (∃ n, Passes page tell call k n w w') ∧ more = Stream.empty
  | .item w' (.ok _) more, w => ∃ n, Passes page tell call k n w w' ∧ ∀ v, Continued n (more v) v

end Phases

variable [Ambient W] {a : Attempts W} {base : W} {s s' : Phase W} {ms : List Mark}

/-- Parts of a call that write only what hooks do, with a listener that writes down what it hears. -/
structure Attempts.Apart (page : W → List E) (tell : Notice W → E) (call : CallContext) (a : Attempts W) :
    Prop where
  log : LogApart page
  methodKey : a.methodKey = call.methodKey
  listener : a.listener.WritesDown page tell
  inner : a.inner.Within (fun _ => Sends page tell call) (Sends page tell call)
  request : a.request.Within (Sends page tell call)

theorem accounted_turn (ha : a.Apart page tell call) (h : Turn (Sends page tell call) a w s ms w' s')
    (hs : Accounted page tell call k base w s) : Accounted page tell call k base w' s' := by
  have hreport : ∀ n e v, SameView page v (report a n e v) := fun n e v => ha.log.record _ _ _ v
  cases h with
  | @refuse w₁ session queue n e he =>
    obtain ⟨hpassed, hsession⟩ := hs
    have hsent := (ha.inner _ ha.request w).1
    rw [he] at hsent
    exact ⟨hpassed.trans ((Passes.of_sends hsent).trans (.of_same (hreport n e w₁))), hsession⟩
  | stall he =>
    have hsent := (ha.inner _ ha.request w).1
    rw [he] at hsent
    exact ⟨_, hs.1.trans (.of_sends hsent)⟩
  | arrive he hb =>
    obtain ⟨hpassed, hsession⟩ := hs
    obtain ⟨hsent, hresponse⟩ := ha.inner _ ha.request w
    rw [he] at hsent hresponse
    obtain ⟨hbody, hitems⟩ := (hresponse _ rfl).body _
    rw [hb] at hbody hitems
    exact ⟨hpassed.trans ((Passes.of_sends hsent).trans (.of_sends hbody)), hitems, hsession⟩
  | deliver hi =>
    obtain ⟨hpassed, hitems, hsession⟩ := hs
    have hitem := hitems w
    rw [hi] at hitem
    exact ⟨hpassed.trans (.of_sends hitem.1), hitem.2, hsession⟩
  | finish hi =>
    obtain ⟨hpassed, hitems, -⟩ := hs
    have hend := hitems w
    rw [hi] at hend
    exact ⟨_, hpassed.trans (.of_sends hend)⟩
  | dry hi =>
    obtain ⟨hpassed, hitems, -⟩ := hs
    have hstall := hitems w
    rw [hi] at hstall
    exact ⟨_, hpassed.trans (.of_sends hstall)⟩
  | @collapse w₁ items more session queue n e hi =>
    obtain ⟨hpassed, hitems, hsession⟩ := hs
    have hitem := hitems w
    rw [hi] at hitem
    exact ⟨hpassed.trans ((Passes.of_sends hitem.1).trans (.of_same (hreport n e w₁))), hsession⟩
  | @grant w₁ session rest queue queue' last n hc =>
    obtain ⟨hpassed, hsession⟩ := hs
    obtain ⟨hthought, hrest⟩ := Session.Within.said Sends.sparing.changes hsession hc
    have htold := ha.listener.notify ha.log (.retryAttempt a.methodKey (n + 1) last) w₁
    rw [ha.methodKey] at htold ⊢
    exact ⟨hpassed.trans ((Passes.of_sends hthought).trans (.of_retry last htold)), hrest⟩
  | decline hc => exact ⟨_, hs.1.trans (.of_sends (Session.Within.said Sends.sparing.changes hs.2 hc))⟩
  | silence hc => exact ⟨_, hs.1.trans (.of_sends (Session.Within.said Sends.sparing.changes hs.2 hc))⟩
  | never hc => exact ⟨_, hs.1.trans (.of_sends (Session.Within.said Sends.sparing.changes hs.2 hc))⟩
  | pause hidle hact =>
    cases s with
    | due session queue n => exact hidle.elim
    | reading items session queue n => exact ⟨hs.1.trans (.of_sends hact), hs.2⟩
    | asking session queue last n => exact hidle.elim
    | _ => exact hs.imp fun n hpassed => hpassed.trans (.of_sends hact)

theorem accounted_path (ha : a.Apart page tell call) (h : Path (Sends page tell call) a w s ms w' s')
    (hs : Accounted page tell call k base w s) : Accounted page tell call k base w' s' :=
  h.keeps (I := fun _ => Accounted page tell call k base) (accounted_turn ha) [] hs

omit [Ambient W] in
theorem Accounted.of_waits : ∀ {s : Phase W}, s.waits → Accounted page tell call k base w s →
    ∃ n, Passes page tell call k n base w
  | .stalled, _, h => h
  | .unanswered, _, h => h

theorem Serves.continued (ha : a.Apart page tell call) : ∀ {t : Step W (Except Failure Json)} {w : W}
    {s : Phase W} {k : Nat}, Serves (Sends page tell call) a t w s → Accounted page tell call k w w s →
      Continued page tell call k t w
  | .done _, _, _, _, ⟨_, hp, _⟩, hs => accounted_path ha hp hs
  | .never _, _, _, _, ⟨_, _, hp, hwaits, _⟩, hs => Accounted.of_waits hwaits (accounted_path ha hp hs)
  | .item _ (.error _) _, _, _, _, ⟨⟨_, hp, _⟩, hmore⟩, hs => ⟨accounted_path ha hp hs, hmore⟩
  | .item _ (.ok _) more, _, _, _, ⟨_, _, _, _, n, hp, _, hmore⟩, hs => by
    obtain ⟨hpassed, hwithin⟩ := accounted_path ha hp hs
    exact ⟨n, hpassed, fun v => (hmore v).continued ha ⟨.of_same rfl, hwithin⟩⟩

omit [Ambient W] in
theorem ofList_continued : ∀ (js : List Json) (v : W),
    Continued page tell call k (Stream.ofList (js.map .ok) v) v
  | [], _ => ⟨k, .of_same rfl⟩
  | _ :: js, _ => ⟨k, .of_same rfl, ofList_continued js⟩

/-- The body of a response that was handed out: the element read ahead is told of like the others. -/
theorem items_continued (ha : a.Apart page tell call) (arity : Arity) {p : Primed W}
    {resume : Failure → W → Outcome W} {session : Session W} {queue : List Failure}
    (hrest : p.first = none → p.rest = .empty)
    (hresume : ∀ e v, (resume e v).Follows (Sends page tell call) a (report a n e v)
      (.asking session (queue ++ [e]) e n))
    (hs : Accounted page tell call 0 base w (p.phase session queue n)) :
    ∃ m, Passes page tell call 0 m base w ∧ ∀ v, Continued page tell call m (p.items arity resume v) v := by
  rw [Primed.phase] at hs
  cases arity with
  | mono =>
    have hpassed : ∃ m, Passes page tell call 0 m base w := by
      cases hf : p.first with
      | none => rwa [hf] at hs
      | some j =>
        rw [hf] at hs
        exact ⟨n, hs.1⟩
    exact hpassed.imp fun m hpassed => ⟨hpassed, ofList_continued _⟩
  | flux =>
    have hserves := handed_serves hrest hresume
    simp only [Primed.items, Outcome.elements]
    cases hf : p.first with
    | none =>
      simp only [Primed.phase, hf] at hs hserves
      obtain ⟨m, hpassed⟩ := hs
      exact ⟨m, hpassed, fun v => (hserves v).continued ha ⟨m, .of_same rfl⟩⟩
    | some j =>
      simp only [Primed.phase, hf] at hs hserves
      obtain ⟨hpassed, hwithin⟩ := hs
      have hcontinued : ∀ u, Continued page tell call n (splice _ (p.rest u)) u :=
        fun u => (hserves u).continued ha ⟨.of_same rfl, hwithin⟩
      exact ⟨n, hpassed, fun v => ⟨n, .of_same rfl, hcontinued⟩⟩

/-- What comes of all attempts of a call: a failure, or a response whose body is read on, or nothing. -/
def Attempted (page : W → List E) (tell : Notice W → E) (call : CallContext) (w : W) :
    W × Eventual Failure (Response W) → Prop
  | (w', .error _) => ∃ n, Passes page tell call 0 n w w'
  | (w', .never) => ∃ n, Passes page tell call 0 n w w'
  | (w', .ok r) => ∃ n items, Passes page tell call 0 n w w' ∧ r.body = (fun v => (v, items)) ∧
    ∀ v, Continued page tell call n (items v) v

theorem exchange_attempted (ha : a.Apart page tell call) {policy : Policy W}
    (hpolicy : policy.Within (Sends page tell call)) {endpoint : Endpoint} (hkey : endpoint.key = a.methodKey)
    (w : W) : Attempted page tell call w ((exchange policy a.listener endpoint a.inner).execute a.request w) := by
  have hrun : (run a policy w).Follows (Sends page tell call) _ _ _ := run_follows policy w
  obtain ⟨hopened, hsession⟩ := hpolicy w
  have hstart : Accounted page tell call 0 w (policy.opening w).1 (.due (policy.opening w).2 [] 0) :=
    ⟨.of_sends hopened, hsession⟩
  rw [exchange_execute, hkey]
  cases ho : run a policy w with
  | failed w' e =>
    rw [ho] at hrun
    obtain ⟨ms, hpath, -⟩ := hrun
    exact accounted_path ha hpath hstart
  | never w' =>
    rw [ho] at hrun
    obtain ⟨ms, s, hpath, hwaits, -⟩ := hrun
    exact Accounted.of_waits hwaits (accounted_path ha hpath hstart)
  | primed w' p resume =>
    rw [ho] at hrun
    obtain ⟨ms, session, queue, n, -, hpath, hrest, hresume⟩ := hrun
    have haccounted := accounted_path ha hpath hstart
    obtain ⟨m, hpassed, hcontinued⟩ := items_continued ha endpoint.arity hrest hresume haccounted
    exact ⟨m, _, hpassed, rfl, hcontinued⟩

end Retry

/-! ### Watched calls -/

variable [Ambient W] {l : Listener W} {request : Request W}

/-- What is heard of an item when it is handed out. -/
def Notice.ofItem (call : CallContext) (elapsed : Duration) : Except Failure Json → Notice W
  | .ok j => .bodyElement call j elapsed
  | .error e => .errorReceived call e elapsed

theorem Listener.WritesDown.tellItem (hlog : LogApart page) (hl : l.WritesDown page tell)
    (call : CallContext) (w : W) :
    ∀ item, Writes page tell [.ofItem call (call.elapsed w) item] w (l.tellItem call item w)
  | .ok _ => hl.notify hlog _ w
  | .error _ => hl.notify hlog _ w

/-- Whatever a caller reads of a body that is watched, it is on the page. -/
theorem Retry.Continued.readBy (hlog : LogApart page) (hl : l.WritesDown page tell)
    {r : Reader W (Except Failure Json)} (hr : ∀ seen w w', r seen w = some w' → Sends page tell call w w') :
    ∀ {t : Step W (Except Failure Json)} {w : W} {k : Nat}, Continued page tell call k t w → ∀ seen, ∃ items,
      ((t.tap (l.tellItem call)).readBy r seen).2.items = seen ++ items ∧
        ReadOn page tell call r k w ((t.tap (l.tellItem call)).readBy r seen).1 items
  | .done _, _, _, ⟨_, hpassed⟩, seen => ⟨[], (List.append_nil seen).symm, .prepend hpassed .stopped⟩
  | .never _, _, _, ⟨_, hpassed⟩, seen => ⟨[], (List.append_nil seen).symm, .prepend hpassed .stopped⟩
  | .item w₁ (.error e) more, w, k, ⟨⟨_, hpassed⟩, hmore⟩, seen => by
    have htold := hl.tellItem hlog call w₁ (.error e)
    refine ⟨[.error e], ?_⟩
    subst hmore
    rw [Step.tap, Step.readBy]
    cases hv : r (seen ++ [.error e]) (l.tellItem call (.error e) w₁) with
    | none => exact ⟨rfl, .prepend hpassed (.failed htold (Sends.sparing.changes.refl _) fun _ => rfl)⟩
    -- behind the failure the reader finds nothing
    | some v => exact ⟨rfl, .prepend hpassed (.failed htold (hr _ _ _ hv) fun h => h _ _ _ _ hv)⟩
  | .item w₁ (.ok j) more, w, k, ⟨n, hpassed, hmore⟩, seen => by
    have htold := hl.tellItem hlog call w₁ (.ok j)
    rw [Step.tap, Step.readBy]
    cases hv : r (seen ++ [.ok j]) (l.tellItem call (.ok j) w₁) with
    | none => exact ⟨[.ok j], rfl, .prepend hpassed (.element htold .stopped)⟩
    | some v =>
      obtain ⟨items, hseen, hread⟩ := (hmore v).readBy hlog hl hr (seen ++ [.ok j])
      refine ⟨.ok j :: items, ?_, .prepend hpassed (.element htold (.prepend (.of_sends (hr _ _ _ hv)) hread))⟩
      rw [hseen, List.append_assoc]
      rfl

/-- What a caller reads of the body of a response that is watched, from the first element on. -/
theorem Listener.WritesDown.readOn (hlog : LogApart page) (hl : l.WritesDown page tell)
    {reader : Reader W (Except Failure Json)}
    (hreader : ∀ seen w w', reader seen w = some w' → Sends page tell call w w')
    {items : Stream W (Except Failure Json)} (hitems : ∀ v, Retry.Continued page tell call k (items v) v) (w : W) :
    ReadOn page tell call reader k w ((items.tap (l.tellItem call)).readBy reader w).1
      ((items.tap (l.tellItem call)).readBy reader w).2.items := by
  rw [Stream.readBy]
  cases hv : reader [] w with
  | none => exact .stopped
  | some v =>
    obtain ⟨items', hseen, hread⟩ := (hitems v).readBy hlog hl hreader []
    rw [List.nil_append] at hseen
    exact .prepend (.of_sends (hreader _ _ _ hv)) (hseen ▸ hread)

/-- What an attempt of a client writes on the page is what hooks write there. -/
theorem Blueprint.Apart.attempt {wire : Wire W} {b : Blueprint W} (hlog : LogApart page) (hb : b.Apart page wire)
    (hpause : ∀ d w, Sends page tell call w (Ambient.pause d w)) :
    (b.attempt wire).Within (fun _ => Sends page tell call) (Sends page tell call) :=
  b.attempt_within Sends.sparing.changes
    ⟨fun level part message w => Sends.sparing.same _ _ (hlog.record level part message w), hpause⟩ wire
    (hb.transport _ Sends.sparing) (hb.interceptors _ Sends.sparing) (hb.rules _ Sends.sparing)
    (hb.mappers _ Sends.sparing)

/-- What a listener writes down of a call, if it is told of attempts as they are made. -/
theorem Listener.WritesDown.accounted (hlog : LogApart page) (hl : l.WritesDown page tell) {key : String}
    {x : Exchange W} {reader : Reader W (Except Failure Json)} {w w₁ : W}
    (hstart : CallContext.start key request w = (w₁, call))
    (hx : ∀ w, Retry.Attempted page tell call w (x.execute (l.watchRequest call request) w))
    (hreader : ∀ seen w w', reader seen w = some w' → Sends page tell call w w') :
    let result := (l.exchange key x).call request (.body reader) w
    ∃ ns d ended, Account call request ns result.2 ∧ ns.filterMap Notice.retry? = List.range' 1 d ∧
      Writes page tell ns w ended ∧ Sends page tell call ended result.1 ∧
      (reader.Releases page → SameView page ended result.1) := by
  intro result
  have hfresh : (Ambient.freshId w).1 = w₁ := congrArg Prod.fst hstart
  let started := l.notify (.requestStarted call request) w₁
  have hstarted : Writes page tell [.requestStarted call request] w started :=
    (Writes.of_same (hfresh ▸ hlog.freshId w)).trans (hl.notify hlog _ _)
  have hattempted := hx started
  rcases hr : x.execute (l.watchRequest call request) started with ⟨w', e | r | _⟩ <;> rw [hr] at hattempted
  · obtain ⟨n, ns, d, hbetween, hretries, -, hpassed⟩ := hattempted
    have htold := hl.notify hlog (.errorReceived call e (call.elapsed w')) w'
    have hresult : result = (l.notify (.errorReceived call e (call.elapsed w')) w', .refused e) :=
      l.watched_of_error hstart hr _
    rw [hresult]
    refine ⟨_, d, _, .refused e _ hbetween, ?_, hstarted.trans (hpassed.trans htold),
      Sends.sparing.changes.refl _, fun _ => rfl⟩
    rw [List.filterMap_cons_none rfl, List.filterMap_append, hretries, Nat.zero_add]
    exact List.append_nil _
  · obtain ⟨n, items, ⟨ns, d, hbetween, hretries, hn, hpassed⟩, hbody, hcontinued⟩ := hattempted
    let answered := l.notify (.responseReceived call r.status r.headers (call.elapsed w')) w'
    have htold : Writes page tell [.responseReceived call r.status r.headers (call.elapsed w')] w' answered :=
      hl.notify hlog _ w'
    have hserve : (l.watchResponse call r).serve (.body reader) answered
        = (((items.tap (l.tellItem call)).readBy reader answered).1,
          .items ((items.tap (l.tellItem call)).readBy reader answered).2) := by
      simp only [Response.serve, watchResponse, hbody]
    obtain ⟨ns', d', ended, haccount, hretries', hpage, hbehind⟩ := hl.readOn hlog hreader hcontinued answered
    have hresult : result = (((l.watchResponse call r).serve (.body reader) answered).1,
        .response r.status r.headers ((l.watchResponse call r).serve (.body reader) answered).2) :=
      l.watched_of_ok hstart hr _
    rw [hresult, hserve]
    refine ⟨_, d + d', ended, .answered r.status r.headers _ hbetween haccount, ?_,
      hstarted.trans (hpassed.trans (htold.trans hpage)), hbehind⟩
    have hfrom : n + 1 = 1 + d := by omega
    rw [Nat.zero_add] at hretries
    rw [List.filterMap_cons_none rfl, List.filterMap_append, List.filterMap_cons_none rfl, hretries, hretries', hfrom]
    exact List.range'_append_1
  · obtain ⟨n, ns, d, hbetween, hretries, -, hpassed⟩ := hattempted
    have hresult : result = (w', .waiting) := l.watched_of_never hstart hr _
    rw [hresult]
    refine ⟨_, d, _, .waiting hbetween, ?_, hstarted.trans hpassed, Sends.sparing.changes.refl _, fun _ => rfl⟩
    rw [List.filterMap_cons_none rfl, hretries]

namespace Rehearsal

/-- The client that tries once more is watched. -/
def monitored : Blueprint Stage := { persistent with listener := some crashing }

theorem monitored_apart (wire : Wire Stage) : monitored.Apart Stage.heard wire :=
  ⟨(persistent_apart wire).transport, (persistent_apart wire).interceptors, (persistent_apart wire).rules,
    (persistent_apart wire).mappers⟩

theorem upload_apart {held : Request Stage} {reader : Reader Stage (Except Failure Json)}
    (hreader : ∀ seen s s', reader seen s = some s' → held.Meanwhile Stage.heard s s') :
    CallApart Stage.heard monitored upload.1 held reader where
  request body hbody tap htap := by
    cases hbody
    cases htap
  pause d s := .stays (Stage.pause_apart d s)
  policy p hp := by
    obtain rfl := Option.some.inj hp
    have hsparing : Sparing Stage.heard (held.Meanwhile Stage.heard) := Request.Meanwhile.sparing held
    exact Retry.BasicPolicy.toPolicy_within hsparing.changes
      ⟨fun level part message s => .stays (Stage.log_apart.record level part message s),
        fun d s => .stays (Stage.pause_apart d s)⟩ _
  reader := hreader

/-- Reads to the end. Behind a failure somebody still reads the first chunk of the request. -/
def lingering (call : CallContext) : Reader Stage (Except Failure Json) := fun seen s =>
  match seen.getLast? with
  | some (.error _) => some (crashing.notify (.requestBody call [49]) s)
  | _ => some s

theorem lingering_meanwhile (call : CallContext) (seen : List (Except Failure Json)) (s s' : Stage)
    (h : lingering call seen s = some s') :
    (crashing.watchRequest call upload.1).Meanwhile Stage.heard s s' := by
  rw [lingering] at h
  split at h <;> cases h
  · exact crashing.watchRequest_meanwhile rfl [49] s
  · exact .stays rfl

/-- The name of what a listener has heard of. -/
def Event.label : Event → String
  | .requestStarted _ _ _ _ _ => "request_started"
  | .requestBody _ => "request_body"
  | .responseReceived _ _ => "response_received"
  | .bodyElement _ => "body_element"
  | .errorReceived _ => "error_received"
  | .retryAttempt _ _ _ => "retry_attempt"
  | _ => "other"

/-- The body of either attempt breaks behind an element. -/
def breaking : Stage := .ofScript [
  ⟨.items 200 [] (.ok []) [.ok (.ofNat 1), .error (.transport .connect "reset")], .zero, true⟩,
  ⟨.items 200 [] (.ok []) [.ok (.ofNat 2), .error (.transport .connect "reset")], .zero, true⟩]

end Rehearsal

end Courier
