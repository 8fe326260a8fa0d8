import Courier.Proofs.Quiet
import Courier.Proofs.Within

/-! Clients that take what is not found for empty, with notes.

    The transport notes what it sends and what comes of it, who asks for a body, and what is read of it.
    The rules note that they decode, the policy that it goes on in a conversation, the listener what it
    hears of a response. These notes change nothing (`sighted_alike`). An attempt whose answer is that
    nothing was found has an empty response, and nothing is read for it; any other is left to be read
    (`attempt_sighted`). -/

namespace Courier

variable {W E : Type}

/-! ### Notes -/

/-- What is written down about a call. -/
inductive Sight where
  | sent
  | refused (failure : Failure)
  | arrived (status : Nat) (headers : Http.Headers)
  | asked
  | pulled (item : Except Failure Json)
  | drained
  | stalled
  | decoded
  | consulted
  | reported (status : Nat) (headers : Http.Headers)

namespace Sight

/-- The element that was read. -/
def element? : Sight → Option Json
  | .pulled (.ok j) => some j
  | _ => none

/-- The elements that were read. -/
def yielded (es : List Sight) : List Json := es.filterMap element?

/-- Whether this is the answer that nothing was found. -/
def isNotFound : Sight → Bool
  | .arrived status _ => status == 404
  | _ => false

/-- What is written down of a notice. -/
def ofNotice : Notice W → List Sight
  | .responseReceived _ status headers _ => [.reported status headers]
  | _ => []

end Sight

/-- What a transport writes down. -/
def Scribe.sight : Scribe W Sight where
  sent _ := [.sent]
  refused e := [.refused e]
  arrived status headers := [.arrived status headers]
  item x := [.pulled x]
  ending := [.drained]
  stall := [.stalled]

/-- A response that notes who asks for its body. -/
def Response.asking (note : List E) (r : Response (Noted W E)) : Response (Noted W E) where
  status := r.status
  headers := r.headers
  body := fun v => r.body (v.write note)
  data := fun v => r.data (v.write note)

/-- An exchange whose responses note who asks for their bodies. -/
def Exchange.asking (note : List E) (x : Exchange (Noted W E)) : Exchange (Noted W E) where
  shown := x.shown
  execute := fun request v => match x.execute request v with
    | (v, .error e) => (v, .error e)
    | (v, .never) => (v, .never)
    | (v, .ok r) => (v, .ok (r.asking note))

/-- A rule that notes that it decodes. -/
def Status.Rule.decoding (note : List E) (rule : Rule W) : Rule (Noted W E) where
  name := rule.name
  claims := rule.claims
  decode := fun key r v => rule.noted.decode key r (v.write note)

/-- A session that notes each step it takes. -/
def Retry.Session.voiced (note : List E) : Session W → Session (Noted W E)
  | .closed => .perform (·.write note) fun _ => .closed
  | .await next => .perform (·.write note) fun _ => .await fun e => (next e).voiced note
  | .perform effect rest => .perform (fun v => (v.act effect).write note) fun v => (rest v.world).voiced note
  | .answer verdict rest => .perform (·.write note) fun _ => .answer verdict (rest.voiced note)

/-- A policy whose sessions note each step they take. -/
def Retry.Policy.voiced (note : List E) (p : Policy W) : Policy (Noted W E) where
  name := p.name
  opening := fun v => match p.opening v.world with
    | (w, session) => (⟨w, v.notes⟩, session.voiced note)

/-- The parts of a client that takes what is not found for empty, with their notes. -/
def Blueprint.sighted (wire : Wire W) [Ambient W] (b : Blueprint W) : Blueprint (Noted W Sight) where
  endpoint := b.endpoint
  target := b.target
  transport := some <| Exchange.asking [.asked] <|
    (b.transport.getD (Transport.exchange wire ⟨none, true, none⟩ b.endpoint.arity)).noted .sight
  interceptors := b.interceptors.map (Interceptor.noted [])
  rules := b.rules.map (Status.Rule.decoding [.decoded])
  mappers := [.ignore404]
  policy := b.policy.map (Retry.Policy.voiced [.consulted])
  listener := b.listener.map (Listener.noted Sight.ofNotice)

/-! ### Notes change nothing -/

theorem Response.Alike.asking (note : List E) {r : Response (Noted W E)} {r' : Response W}
    (h : r.Alike Noted.Over r') : (r.asking note).Alike Noted.Over r' where
  status := h.status
  headers := h.headers
  body v w hv := h.body (v.write note) w hv
  data v w hv := h.data (v.write note) w hv

theorem Exchange.Alike.asking (note : List E) {x : Exchange (Noted W E)} {x' : Exchange W}
    (h : x.Alike Noted.Over Request.Over x') : (x.asking note).Alike Noted.Over Request.Over x' := by
  intro request request' hrequest v w hv
  have hresult := h request request' hrequest v w hv
  simp only [Exchange.asking]
  generalize x.execute request v = result at hresult ⊢
  generalize x'.execute request' w = result' at hresult ⊢
  cases hresult with
  | refused e h => exact .refused e h
  | never h => exact .never h
  | arrived h hr => exact .arrived h (hr.asking note)

theorem Status.Rule.decoding_alike (note : List E) (rule : Rule W) :
    (rule.decoding note).Alike Noted.Over rule where
  name := rfl
  claims := rfl
  decode key r r' hr v w hv := rule.noted_alike.decode key r r' hr (v.write note) w hv

theorem Retry.Session.voiced_alike (note : List E) : ∀ s : Session W,
    Session.Alike Noted.Over (s.voiced note) s
  | .closed => .aside (fun _ _ h => h) fun _ => .closed
  | .await next => .aside (fun _ _ h => h) fun _ => .await fun e => voiced_alike note (next e)
  | .perform effect rest => by
    refine .perform (fun v w h => congrArg effect h) fun v w h => ?_
    cases h
    exact voiced_alike note (rest v.world)
  | .answer _ rest => .aside (fun _ _ h => h) fun _ => .answer (voiced_alike note rest)

theorem Retry.Policy.voiced_alike (note : List E) (p : Policy W) :
    Policy.Alike Noted.Over (p.voiced note) p := by
  intro v w h
  cases h
  exact ⟨rfl, Session.voiced_alike note _⟩

/-- A blueprint with notes is like the blueprint that takes what is not found for empty. -/
theorem Blueprint.sighted_alike [Ambient W] (wire : Wire W) (wire' : Wire (Noted W Sight)) (b : Blueprint W) :
    (b.sighted wire).Alike Noted.Over Request.Over wire' wire (decode404 { b with mappers := [] }) where
  endpoint := rfl
  transport := Exchange.Alike.asking _ (Exchange.noted_alike .sight _)
  interceptors := List.forall₂_map_left_iff.mpr (List.forall₂_same.mpr fun i _ => i.noted_alike [])
  rules := List.forall₂_map_left_iff.mpr (List.forall₂_same.mpr fun rule _ => rule.decoding_alike _)
  mappers _ _ hr _ _ hv := Mapper.applyAll_rel Noted.ambient_alike.toEffectsAlike
    (.cons Mapper.ignore404_alike .nil) hr hv
  policy := by
    simp only [sighted, decode404, withMapper]
    cases b.policy with
    | none => exact .none
    | some p => exact .some (p.voiced_alike _)
  listener := by
    simp only [sighted, decode404, withMapper]
    cases b.listener with
    | none => exact .none
    | some l => exact .some (l.noted_alike _)

/-! ### What is read -/

/-- What has been written down since: that these elements were read, and nothing of an answer that nothing
    was found. -/
def Finds (js : List Json) (v v' : Noted W Sight) : Prop :=
  ∃ es, v'.notes = v.notes ++ es ∧ Sight.yielded es = js ∧ es.all (!·.isNotFound)

theorem Finds.of_eq {v v' : Noted W Sight} (h : v'.notes = v.notes) : Finds [] v v' :=
  ⟨[], by rw [h, List.append_nil], rfl, rfl⟩

theorem Finds.trans {js js' : List Json} {u v w : Noted W Sight} (h : Finds js u v) (h' : Finds js' v w) :
    Finds (js ++ js') u w := by
  obtain ⟨es, hv, rfl, hes⟩ := h
  obtain ⟨es', hw, rfl, hes'⟩ := h'
  refine ⟨es ++ es', by rw [hw, hv, List.append_assoc], List.filterMap_append, ?_⟩
  rw [List.all_append, hes, hes']
  rfl

/-- Nothing was read. -/
theorem Finds.changes : Changes (Finds (W := W) []) := ⟨fun _ => .of_eq rfl, fun h h' => h.trans h'⟩

theorem Finds.ambient [Ambient W] : AmbientWithin (Finds (W := W) []) :=
  ⟨fun _ _ _ _ => .of_eq rfl, fun _ _ => .of_eq rfl⟩

/-- Of an item its element was read, if it is one. -/
def Finds.ofItem (x : Except Failure Json) : Noted W Sight → Noted W Sight → Prop := Finds x.toOption.toList

/-- A response that leaves its elements to be read. -/
abbrev Response.Open (r : Response (Noted W Sight)) : Prop := r.Within Finds.ofItem (Finds [])

theorem Step.noted_open : ∀ (t : Step W (Except Failure Json)) (u : Noted W Sight),
    (t.noted (fun x => [Sight.pulled x]) [.drained] [.stalled] u.notes).Within Finds.ofItem (Finds []) u
  | .done _, _ => ⟨[.drained], rfl, rfl, rfl⟩
  | .never _, _ => ⟨[.stalled], rfl, rfl, rfl⟩
  | .item _ (.ok j) more, _ => ⟨⟨[.pulled (.ok j)], rfl, rfl, rfl⟩, fun v => noted_open (more v.world) v⟩
  | .item _ (.error e) more, _ => ⟨⟨[.pulled (.error e)], rfl, rfl, rfl⟩, fun v => noted_open (more v.world) v⟩

theorem Response.asking_open (r : Response W) : ((r.noted .sight).asking [.asked]).Open where
  body v := ⟨⟨[.asked], rfl, rfl, rfl⟩, fun u => Step.noted_open ((r.body v.world).2 u.world) u⟩
  data _ := ⟨[.asked], rfl, rfl, rfl⟩

theorem Retry.Session.voiced_within : ∀ s : Session W, (s.voiced [Sight.consulted]).Within (Finds [])
  | .closed => ⟨fun _ => ⟨[.consulted], rfl, rfl, rfl⟩, fun _ => trivial⟩
  | .await next => ⟨fun _ => ⟨[.consulted], rfl, rfl, rfl⟩, fun _ e => voiced_within (next e)⟩
  | .perform _ rest => ⟨fun _ => ⟨[.consulted], rfl, rfl, rfl⟩, fun v => voiced_within (rest v.world)⟩
  | .answer _ rest => ⟨fun _ => ⟨[.consulted], rfl, rfl, rfl⟩, fun _ => voiced_within rest⟩

theorem Retry.Policy.voiced_within (p : Policy W) : (p.voiced [Sight.consulted]).Within (Finds []) :=
  fun _ => ⟨.of_eq rfl, Session.voiced_within _⟩

theorem Status.Rule.decoding_within (rule : Rule W) :
    (rule.decoding [Sight.decoded]).Within Finds.ofItem (Finds []) :=
  fun _ _ _ _ => ⟨[.decoded], rfl, rfl, rfl⟩

/-! ### One attempt -/

/-- What has been written down since: that these elements were read, and at last that nothing was found. -/
def Misses (js : List Json) (headers : Http.Headers) (v v' : Noted W Sight) : Prop :=
  ∃ u, Finds js v u ∧ v'.notes = u.notes ++ [.arrived 404 headers]

theorem Finds.misses {js js' : List Json} {headers : Http.Headers} {u v w : Noted W Sight}
    (h : Finds js u v) (h' : Misses js' headers v w) : Misses (js ++ js') headers u w := by
  obtain ⟨v', hread, hmissed⟩ := h'
  exact ⟨v', h.trans hread, hmissed⟩

/-- A response without a body. -/
def Response.void (status : Nat) (headers : Http.Headers) : Response W where
  status := status
  headers := headers
  body := fun w => (w, .empty)
  data := fun w => (w, .ok [])

/-- An exchange whose runs are attempts: if nothing is found the response is empty, else it is left to be
    read. -/
structure Exchange.Sighted (x : Exchange (Noted W Sight)) : Prop where
  refused : ∀ {request v v' e}, x.execute request v = (v', .error e) → Finds [] v v'
  never : ∀ {request v v'}, x.execute request v = (v', .never) → Finds [] v v'
  arrived : ∀ {request v v' r}, x.execute request v = (v', .ok r) →
    (∃ headers, Misses [] headers v v' ∧ r = .void 200 headers) ∨ Finds [] v v' ∧ r.Open

section Attempt

variable [Ambient W]

theorem Interceptor.applyAll_silent : ∀ (is : List (Interceptor W)) (r : Request (Noted W E)) (v : Noted W E),
    (applyAll (is.map (noted [])) r v).1.notes = v.notes
  | [], _, _ => rfl
  | i :: is, r, v => by
    rw [List.map_cons, applyAll]
    exact (applyAll_silent is _ _).trans (List.append_nil v.notes)

omit [Ambient W] in
theorem Mapper.ignore404_of_found {r : Response W} (h : r.status ≠ 404) : ignore404.map r = r :=
  if_neg fun heq => h (eq_of_beq heq)

omit [Ambient W] in
theorem Mapper.ignore404_of_missing {r : Response W} (h : r.status = 404) :
    ignore404.map r = .void 200 r.headers := by
  simp only [ignore404, h]
  rfl

theorem Status.handle_notes (rule : Rule (Noted W E)) (key : String) (r : Response (Noted W E))
    (v : Noted W E) : (handle rule key r v).1.notes = v.notes := by
  rw [handle]
  split <;> rfl

theorem Status.handle_head (rule : Rule W) (key : String) (r : Response W) (w : W) :
    (handle rule key r w).2.status = r.status ∧ (handle rule key r w).2.headers = r.headers := by
  rw [handle]
  split <;> exact ⟨rfl, rfl⟩

namespace Blueprint

variable (wire : Wire W) (wire' : Wire (Noted W Sight)) (b : Blueprint W)

theorem sighted_sent {request : Request (Noted W Sight)} {v v' : Noted W Sight}
    {result : Eventual Failure (Response (Noted W Sight))}
    (h : ((b.sighted wire).sent wire').execute request v = (v', result)) : match result with
      | .error e => v'.notes = v.notes ++ [.sent, .refused e]
      | .never => v'.notes = v.notes ++ [.sent, .stalled]
      | .ok r => v'.notes = v.notes ++ [.sent, .arrived r.status r.headers] ∧ r.Open := by
  rw [sent_execute] at h
  have happlied := Interceptor.applyAll_silent b.interceptors request v
  simp only [sighted, Option.getD_some, Exchange.asking] at h
  rcases hx : (Exchange.noted .sight (b.transport.getD (Transport.exchange wire ⟨none, true, none⟩
    b.endpoint.arity))).execute (Interceptor.applyAll (b.interceptors.map (Interceptor.noted [])) request v).2
    (Interceptor.applyAll (b.interceptors.map (Interceptor.noted [])) request v).1 with ⟨v₁, e | r | _⟩
  · rw [hx] at h
    cases h
    have hnotes := Exchange.notes_of_error hx
    rw [happlied] at hnotes
    exact hnotes
  · rw [hx] at h
    cases h
    obtain ⟨hnotes, r', rfl⟩ := Exchange.notes_of_ok hx
    rw [happlied] at hnotes
    exact ⟨hnotes, r'.asking_open⟩
  · rw [hx] at h
    cases h
    have hnotes := Exchange.notes_of_never hx
    rw [happlied] at hnotes
    exact hnotes

/-- If nothing is found the response is empty, whatever rules there are; else they may fault it. -/
theorem attempt_sighted : ((b.sighted wire).attempt wire').Sighted where
  refused {request v v' e} h := by
    rw [attempt_execute] at h
    rcases hs : ((b.sighted wire).sent wire').execute request v with ⟨v₁, e' | r | _⟩ <;> rw [hs] at h <;>
      cases h
    exact ⟨[.sent, .refused e], b.sighted_sent wire wire' hs, rfl, rfl⟩
  never {request v v'} h := by
    rw [attempt_execute] at h
    rcases hs : ((b.sighted wire).sent wire').execute request v with ⟨v₁, e' | r | _⟩ <;> rw [hs] at h <;>
      cases h
    exact ⟨[.sent, .stalled], b.sighted_sent wire wire' hs, rfl, rfl⟩
  arrived {request v v' r} h := by
    rw [attempt_execute] at h
    rcases hs : ((b.sighted wire).sent wire').execute request v with ⟨v₁, e' | r₁ | _⟩
    · rw [hs] at h
      cases h
    · obtain ⟨hsent, hr₁⟩ := b.sighted_sent wire wire' hs
      have hrule : (Status.Rule.firstOf ((b.sighted wire).rules ++ [.standard])).Within Finds.ofItem
          (Finds (W := W) []) := by
        refine Status.Rule.orStandard_within Finds.changes fun rule hrule => ?_
        obtain ⟨rule', -, rfl⟩ := List.mem_map.mp hrule
        exact rule'.decoding_within
      let rule : Status.Rule (Noted W Sight) := .firstOf ((b.sighted wire).rules ++ [.standard])
      obtain ⟨-, hr₂⟩ := Status.handle_within Finds.changes Finds.ambient (fun _ _ _ h => h) hrule
        b.endpoint.key hr₁ v₁
      obtain ⟨hstatus, hheaders⟩ := Status.handle_head rule b.endpoint.key r₁ v₁
      obtain ⟨hmapped, hlast⟩ := Mapper.ignore404.apply_notes (Status.handle rule b.endpoint.key r₁ v₁).2
        (Status.handle rule b.endpoint.key r₁ v₁).1
      rw [Status.handle_notes] at hmapped
      rw [hs] at h
      cases h
      -- the status decides before anybody reads the body, whether or not a rule has faulted it
      by_cases hfound : r₁.status = 404
      · refine .inl ⟨r₁.headers, ⟨v.write [.sent], ⟨[.sent], rfl, rfl, rfl⟩, ?_⟩, ?_⟩
        · rw [hfound] at hsent
          exact hmapped.trans (hsent.trans (List.append_assoc v.notes [.sent] _).symm)
        · rw [← hheaders]
          exact hlast.trans (Mapper.ignore404_of_missing (hstatus.trans hfound))
      · have hopen : ∀ r, r = (Status.handle rule b.endpoint.key r₁ v₁).2 → r.Open := by
          rintro r rfl
          exact hr₂
        refine .inr ⟨⟨_, hmapped.trans hsent, rfl, ?_⟩, hopen _ ?_⟩
        · simp [Sight.isNotFound, hfound]
        · exact hlast.trans (Mapper.ignore404_of_found fun heq => hfound (hstatus.symm.trans heq))
    · rw [hs] at h
      cases h

end Blueprint

end Attempt

end Courier
