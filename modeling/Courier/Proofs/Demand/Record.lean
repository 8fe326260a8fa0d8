import Courier.Proofs.Listener.Page

/-! Records of what is pulled.

    A record tells, in order, when an attempt is sent, when an item is pulled from its body, and when the
    caller asks for an item and has it. A law says of each entry whether it may stand behind those before
    it. What the parts of a client do between the transport and the caller leaves the record alone, so that
    an attempt as a whole pulls one item for each element that it hands out (`Blueprint.Draws.attempt`). -/

namespace Courier

/-! ### Entries and laws -/

/-- An entry of a record. Attempts are numbered from one over the whole record. -/
inductive Draw where
  | sent
  | pulled (attempt : Nat) (item : Except Failure Json)
  | asked
  | got (item : Except Failure Json)

/-- Whether an attempt is sent. -/
def Draw.isSent : Draw → Bool
  | .sent => true
  | _ => false

/-- The number of attempts. -/
def sends (ds : List Draw) : Nat := ds.countP Draw.isSent

/-- What a record says of its last attempt: how many items the caller has asked for since it was sent, how
    many were pulled from its body, how many elements the caller has got, and whether a failure was pulled. -/
structure Meter where
  attempt : Nat
  asked : Nat
  pulled : Nat
  given : Nat
  closed : Bool

namespace Meter

/-- Before a call whose record goes on behind these entries. -/
def start (ds : List Draw) : Meter := ⟨sends ds, 0, 0, 0, false⟩

/-- One more entry. -/
def next (m : Meter) : Draw → Meter
  | .sent => ⟨m.attempt + 1, 0, 0, 0, false⟩
  | .pulled _ (.ok _) => { m with pulled := m.pulled + 1 }
  | .pulled _ (.error _) => { m with pulled := m.pulled + 1, closed := true }
  | .asked => { m with asked := m.asked + 1 }
  | .got (.ok _) => { m with given := m.given + 1 }
  | .got (.error _) => m

/-- More entries, in their order. -/
def read (m : Meter) (ds : List Draw) : Meter := ds.foldl next m

/-- Only from the last attempt, and only if the caller has asked for more items than were pulled. -/
def OnDemand (m : Meter) (k : Nat) : Prop := k = m.attempt ∧ m.pulled < m.asked

/-- Only from the last attempt, not behind a failure, and only if the caller has got all that was pulled
    before; if there is but one result, only the first item. -/
def OneAhead (arity : Arity) (m : Meter) (k : Nat) : Prop :=
  k = m.attempt ∧ m.closed = false ∧ m.pulled ≤ m.given ∧ (arity = .mono → m.pulled = 0)

end Meter

/-- An entry may follow. The law is about items that are pulled, and is told from which attempt. -/
def Draw.Allowed (law : Meter → Nat → Prop) (m : Meter) : Draw → Prop
  | .pulled k _ => law m k
  | _ => True

/-- Each entry may follow those before it. -/
def Lawful (law : Meter → Nat → Prop) : Meter → List Draw → Prop
  | _, [] => True
  | m, d :: ds => d.Allowed law m ∧ Lawful law (m.next d) ds

variable {law : Meter → Nat → Prop} {m : Meter} {ds ds' : List Draw}

theorem Meter.read_append : m.read (ds ++ ds') = (m.read ds).read ds' := List.foldl_append

theorem Lawful.append (h : Lawful law m ds) (h' : Lawful law (m.read ds) ds') : Lawful law m (ds ++ ds') := by
  induction ds generalizing m with
  | nil => exact h'
  | cons d ds ih => exact ⟨h.1, ih h.2 h'⟩

theorem Lawful.before (h : Lawful law m (ds ++ ds')) : Lawful law m ds := by
  induction ds generalizing m with
  | nil => trivial
  | cons d ds ih => exact ⟨h.1, ih h.2⟩

theorem Lawful.behind (h : Lawful law m (ds ++ ds')) : Lawful law (m.read ds) ds' := by
  induction ds generalizing m with
  | nil => exact h
  | cons d ds ih => exact ih h.2

/-- What every allowed entry keeps, a lawful record keeps. -/
theorem Lawful.keeps {I : Meter → Prop} (hstep : ∀ m (d : Draw), d.Allowed law m → I m → I (m.next d))
    (h : Lawful law m ds) (hm : I m) : I (m.read ds) := by
  induction ds generalizing m with
  | nil => exact hm
  | cons d ds ih => exact ih h.2 (hstep m d h.1 hm)

/-- No more items are pulled than are asked for. -/
theorem Meter.onDemand_bound (h : Lawful OnDemand m ds) (hm : m.pulled ≤ m.asked) :
    (m.read ds).pulled ≤ (m.read ds).asked := by
  refine h.keeps (I := fun m => m.pulled ≤ m.asked) (fun m d hd hm => ?_) hm
  rcases d with _ | ⟨k, _ | _⟩ | _ | (_ | _) <;> simp only [next] at hm ⊢
  · exact Nat.le_refl 0
  · exact hd.2
  · exact hd.2
  · omega
  · exact hm
  · exact hm

/-- At most one item more is pulled than the caller has, and at most one if there is but one result. -/
theorem Meter.oneAhead_bound {arity : Arity} (h : Lawful (OneAhead arity) m ds)
    (hm : m.pulled ≤ m.given + 1 ∧ (arity = .mono → m.pulled ≤ 1)) :
    (m.read ds).pulled ≤ (m.read ds).given + 1 ∧ (arity = .mono → (m.read ds).pulled ≤ 1) := by
  refine h.keeps (I := fun m => m.pulled ≤ m.given + 1 ∧ (arity = .mono → m.pulled ≤ 1)) (fun m d hd hm => ?_) hm
  have hpull : ∀ k, OneAhead arity m k → m.pulled + 1 ≤ m.given + 1 ∧ (arity = .mono → m.pulled + 1 ≤ 1) := by
    rintro k ⟨-, -, hahead, hfirst⟩
    exact ⟨by omega, fun hmono => by have := hfirst hmono; omega⟩
  rcases d with _ | ⟨k, _ | _⟩ | _ | (_ | _) <;> simp only [next] at hm ⊢
  · exact ⟨by omega, fun _ => by omega⟩
  · exact hpull _ hd
  · exact hpull _ hd
  · exact hm
  · exact hm
  · exact ⟨by omega, hm.2⟩

theorem Meter.read_attempt : (m.read ds).attempt = m.attempt + sends ds := by
  induction ds generalizing m with
  | nil => rfl
  | cons d ds ih =>
    have hnext : (m.next d).attempt = m.attempt + if d.isSent then 1 else 0 := by
      rcases d with _ | ⟨_, _ | _⟩ | _ | (_ | _) <;> rfl
    have hrest : (m.read (d :: ds)).attempt = (m.next d).attempt + sends ds := ih
    rw [hrest, hnext, sends, sends, List.countP_cons]
    omega

/-! ### Records on a page -/

variable {W : Type} {page : W → List Draw} {u v w : W} {m' m'' : Meter}

/-- From `v` to `w` lawful entries were added to the record, and the meter went from `m` to `m'`. -/
def Adds (page : W → List Draw) (law : Meter → Nat → Prop) (v : W) (m : Meter) (w : W) (m' : Meter) : Prop :=
  ∃ ds, page w = page v ++ ds ∧ Lawful law m ds ∧ m.read ds = m'

/-- The meter counts the attempts of the whole record. -/
def Meter.Counts (m : Meter) (ds : List Draw) : Prop := m.attempt = sends ds

theorem Meter.Counts.asked (h : m.Counts ds) : (m.next .asked).Counts (ds ++ [.asked]) := by
  rw [Counts, sends, List.countP_append]
  exact h

theorem Meter.Counts.noted (h : m.Counts ds) (x : Except Failure Json) :
    ((m.next (.got x)).next .asked).Counts (ds ++ [.got x, .asked]) := by
  rw [Counts, sends, List.countP_append]
  cases x <;> exact h

theorem Adds.of_same (h : SameView page v w) : Adds page law v m w m :=
  ⟨[], h.symm.trans (List.append_nil _).symm, trivial, rfl⟩

theorem Adds.one {d : Draw} (h : page w = page v ++ [d]) (hd : d.Allowed law m) :
    Adds page law v m w (m.next d) := ⟨[d], h, ⟨hd, trivial⟩, rfl⟩

theorem Adds.trans (h : Adds page law u m v m') (h' : Adds page law v m' w m'') : Adds page law u m w m'' := by
  obtain ⟨ds, hpage, hlawful, rfl⟩ := h
  obtain ⟨ds', hpage', hlawful', rfl⟩ := h'
  exact ⟨ds ++ ds', by rw [hpage', hpage, List.append_assoc], hlawful.append hlawful', Meter.read_append⟩

theorem Adds.keep (h : Adds page law u m v m') (h' : SameView page v w) : Adds page law u m w m' :=
  h.trans (.of_same h')

theorem Adds.counts (h : Adds page law v m w m') (hm : m.Counts (page v)) : m'.Counts (page w) := by
  obtain ⟨ds, hpage, -, rfl⟩ := h
  rw [Meter.Counts, hpage, Meter.read_attempt, hm, sends, sends, sends, List.countP_append]

/-! ### Parts that pull -/

section Parts

variable (page : W → List Draw)

/-- Exactly one item was pulled, from the body of the given attempt. -/
def Pulls (k : Nat) (x : Except Failure Json) (v w : W) : Prop := page w = page v ++ [.pulled k x]

/-- An element is handed out for an element that was pulled; a failure takes no more than one item. -/
def Hands (k : Nat) : Except Failure Json → W → W → Prop
  | .ok _, v, w => ∃ j, Pulls page k (.ok j) v w
  | .error _, v, w => SameView page v w ∨ ∃ x, Pulls page k x v w

/-- Each execution is one attempt, and pulling items from its body is what `answer` says. Nothing else that
    is done writes on the record. -/
def Exchange.Draws (answer : Nat → Except Failure Json → W → W → Prop) (x : Exchange W) : Prop :=
  ∀ request, request.Within (SameView page) → ∀ w, page (x.execute request w).1 = page w ++ [.sent] ∧
    ∀ r, (x.execute request w).2 = .ok r → r.Within (answer (sends (page w) + 1)) (SameView page)

/-- The transport writes down its attempts and each item that is pulled from it. Status rules and mappers
    pull an item for each element that they hand out, and all other parts leave the record alone. -/
structure Blueprint.Draws [Ambient W] (wire : Wire W) (b : Blueprint W) : Prop where
  transport : (b.transport.getD (Transport.exchange wire ⟨none, true, none⟩ b.endpoint.arity)).Draws page
    (Pulls page)
  interceptors : ∀ i ∈ b.interceptors, i.Within (SameView page)
  rules : ∀ r ∈ b.rules, ∀ k, r.Within (Hands page k) (SameView page)
  mappers : ∀ m ∈ b.mappers, ∀ k, m.Within (Hands page k) (SameView page)
  policy : ∀ p ∈ b.policy, p.Within (SameView page)
  listener : ∀ l ∈ b.listener, ∀ n w, SameView page w (l.hear n w).1

/-- The caller writes down what it has got, and that it asks for more. -/
def Reader.WritesDown (r : Reader W (Except Failure Json)) : Prop := ∀ seen w w', r seen w = some w' →
  page w' = page w ++ (seen.getLast?.map Draw.got).toList ++ [.asked]

end Parts

theorem Pulls.hands {k : Nat} : ∀ {x : Except Failure Json}, Pulls page k x v w → Hands page k x v w
  | .ok j, h => ⟨j, h⟩
  | .error e, h => .inr ⟨.error e, h⟩

/-- Status rules and mappers keep to what the transport does. -/
theorem Blueprint.Draws.attempt [Ambient W] (hambient : AmbientApart page) {wire : Wire W} {b : Blueprint W}
    (hb : b.Draws page wire) : (b.attempt wire).Draws page (Hands page) := by
  have hsame : Changes (SameView page) := SameView.changes
  have hfault : ∀ k e w w', SameView page w w' → Hands page k (.error e) w w' := fun _ _ _ _ h => .inl h
  intro request hrequest w
  obtain ⟨happlied, hchanged⟩ := Interceptor.applyAll_within hsame hambient.within hb.interceptors hrequest w
  obtain ⟨hsent, hresponse⟩ := hb.transport _ hchanged (Interceptor.applyAll b.interceptors request w).1
  rw [SameView] at happlied
  rw [← happlied, ← sent_execute] at hsent hresponse
  have hpulled := fun r hr => (hresponse r hr).mono (fun _ _ _ => Pulls.hands) fun _ _ h => h
  obtain ⟨hchecked, hlast⟩ := attempt_of_sent hsame hambient.within (hfault _) wire
    (fun rule hrule => hb.rules rule hrule _) (fun m hm => hb.mappers m hm _) hpulled
  rw [SameView] at hchecked
  exact ⟨hchecked.symm.trans hsent, hlast⟩

/-- A listener that leaves the record alone does so also when it crashes. -/
theorem Listener.notify_same [Ambient W] (hambient : AmbientApart page) {l : Listener W}
    (hl : ∀ n w, SameView page w (l.hear n w).1) (n : Notice W) (w : W) : SameView page w (l.notify n w) := by
  have hheard := hl n w
  rw [Listener.notify]
  rcases hear : l.hear n w with ⟨w', crashed⟩
  rw [hear] at hheard
  cases crashed with
  | false => exact hheard
  | true => exact SameView.changes.trans hheard (hambient.within.record _ _ _ w')

/-- Writing a log leaves the record alone. -/
theorem Listener.CallLog.hear_same [Ambient W] (hambient : AmbientApart page) (c : CallLog) (n : Notice W) (w : W) :
    SameView page w (c.listener.hear n w).1 := by
  have hfold : ∀ (texts : List String) (tag : String) (w : W), SameView page w
      (texts.foldl (fun w t => Ambient.record c.logLevel "ReactiveLogger" ("[" ++ tag ++ "] " ++ t) w) w) := by
    intro texts tag
    induction texts with
    | nil => exact fun w => rfl
    | cons t ts ih => exact fun w => SameView.changes.trans (hambient.within.record _ _ _ w) (ih _)
  exact hfold _ _ w

/-- The hook of a listener leaves the record alone like those before it. -/
theorem Listener.watchRequest_same [Ambient W] (hambient : AmbientApart page) {l : Listener W}
    (hl : ∀ n w, SameView page w (l.hear n w).1) (call : CallContext) {request : Request W}
    (hrequest : request.Within (SameView page)) : (l.watchRequest call request).Within (SameView page) := by
  intro body hbody tap htap chunk w
  obtain ⟨body, hmem, rfl⟩ := Option.map_eq_some_iff.mp hbody
  rcases List.mem_append.mp htap with hown | hhook
  · exact hrequest body hmem tap hown chunk w
  · rw [List.mem_singleton.mp hhook]
    exact l.notify_same hambient hl _ w

end Courier
