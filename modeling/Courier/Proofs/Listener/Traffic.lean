import Courier.Proofs.Alike.Stage
import Courier.Proofs.Alongside
import Courier.Proofs.Stream

/-! What listeners leave as it is.

    The transport writes down each request it gets, with all that it can read of it. What others than
    listeners have of the surroundings is a view of them: a listener, and the log, are out of view. Then
    the requests that a transport gets and what the caller has of each call do not depend on the listener
    of a client (`traffic_unwatched`). -/

namespace Courier

variable {W P : Type}

/-! ### Requests that a transport gets -/

/-- What a transport can read of a request: besides its head, the chunks of each subscription to its
    body. -/
structure Posted where
  method : Http.Method
  uri : Url
  headers : Http.Headers
  chunks : Option (List (Except Failure Bytes))

/-- The request as its transport can read it. -/
def Posted.ofRequest (r : Request W) : Posted := ⟨r.method, r.uri, r.headers, r.body.map Body.items⟩

/-- Writes down requests. -/
def Scribe.post : Scribe W Posted := ⟨fun r => [.ofRequest r], fun _ => [], fun _ _ => [], fun _ => [], [], []⟩

/-- Calls one after the other: what the caller has of each. -/
def Exchange.served (x : Exchange W) : List (Request W × Use W) → W → List Receipt
  | [], _ => []
  | (request, use) :: calls, w => match x.call request use w with
    | (w, receipt) => receipt :: served x calls w

/-- The same calls, with the requests that the transport gets during each. -/
def Exchange.traffic (x : Exchange (Noted W Posted)) :
    List (Request W × Use W) → W → List (List Posted × Receipt)
  | [], _ => []
  | (request, use) :: calls, w => match x.call request.noted use.noted ⟨w, []⟩ with
    | (v, receipt) => (v.notes, receipt) :: traffic x calls v.world

variable [Ambient W]

/-- The parts of a client, with a transport that writes down the requests it gets. -/
def Blueprint.posted (wire : Wire W) (b : Blueprint W) : Blueprint (Noted W Posted) where
  endpoint := b.endpoint
  target := b.target
  transport := some <|
    (b.transport.getD (Transport.exchange wire ⟨none, true, none⟩ b.endpoint.arity)).noted .post
  interceptors := b.interceptors.map (Interceptor.noted [])
  rules := b.rules.map Status.Rule.noted
  mappers := b.mappers.map Mapper.noted
  policy := b.policy.map Retry.Policy.silent
  listener := b.listener.map (Listener.noted fun _ => [])

/-- The calls of a client that is built of the parts. -/
def Blueprint.served (wire : Wire W) (b : Blueprint W) (calls : List (Request W × Use W)) (w : W) :
    List Receipt := match b.build wire w with
  | (w, client) => client.pipeline.served calls w

/-- The same calls, with the requests that the transport gets. -/
def Blueprint.traffic (wire : Wire W) (b : Blueprint W) (calls : List (Request W × Use W)) (w : W) :
    List (List Posted × Receipt) := match (b.posted wire).build .deaf ⟨w, []⟩ with
  | (v, client) => client.pipeline.traffic calls v.world

/-! ### Views -/

section Views

variable (view : W → P)

omit [Ambient W] in
/-- Surroundings that look the same. -/
def SameView (v w : W) : Prop := view v = view w

/-- The log and the names of calls are out of view; what waiting does to the view, and the calendar, can be
    told from the view. -/
structure AmbientHidden : Prop where
  record : ∀ level part message w, view (Ambient.record level part message w) = view w
  freshId : ∀ w, view (Ambient.freshId w).1 = view w
  pause : ∀ d v w, view v = view w → view (Ambient.pause d v) = view (Ambient.pause d w)
  calendar : ∀ v w, view v = view w → Ambient.calendar v = Ambient.calendar w

omit [Ambient W] in
/-- What the listener does is out of view. -/
def Listener.Hidden (l : Listener W) : Prop := ∀ n w, view (l.hear n w).1 = view w

/-- What the parts of a client do, its listener apart, can be told from what they get and the view. -/
structure Blueprint.Within (wire : Wire W) (b : Blueprint W) : Prop where
  transport : Exchange.Alike (SameView view) (Request.Alike (SameView view))
    (b.transport.getD (Transport.exchange wire ⟨none, true, none⟩ b.endpoint.arity))
    (b.transport.getD (Transport.exchange wire ⟨none, true, none⟩ b.endpoint.arity))
  interceptors : ∀ i ∈ b.interceptors, i.Alike (SameView view) (Request.Alike (SameView view)) i
  rules : ∀ r ∈ b.rules, r.Alike (SameView view) r
  mappers : ∀ m ∈ b.mappers, m.Alike (SameView view) m
  policy : ∀ p ∈ b.policy, p.Alike (SameView view) p

/-- So can what the caller does, and what the hooks on the body of its request do. -/
structure CallWithin (call : Request W × Use W) : Prop where
  request : call.1.Alike (SameView view) call.1
  use : call.2.Alike (SameView view) call.2

end Views

variable {view : W → P} {wire : Wire W} {b : Blueprint W}

theorem AmbientHidden.unseen (h : AmbientHidden view) : EffectsUnseen (SameView view) where
  left level part message v _ hv := (h.record level part message v).trans hv
  right level part message _ w hv := hv.trans (h.record level part message w).symm
  freshId v _ hv := (h.freshId v).trans hv
  pause := h.pause
  calendar := h.calendar

omit [Ambient W] in
theorem Listener.Hidden.unseen {l : Listener W} (h : l.Hidden view) : l.Unseen (SameView view) :=
  fun n v _ hv => (h n v).trans hv

omit [Ambient W] in
theorem Scribe.post_alike {agree : W → W → Prop} : (Scribe.post (W := W)).Alike agree .post where
  sent r r' h := by
    have hbody := h.body
    simp only [post, Posted.ofRequest, h.method, h.uri, h.headers]
    generalize r.body = body at hbody ⊢
    generalize r'.body = body' at hbody ⊢
    cases hbody with
    | none => rfl
    | some hb => simp only [Option.map_some, hb.items]
  refused := rfl
  arrived := rfl
  item := rfl
  ending := rfl
  stall := rfl

/-- Parts that write down what the transport gets are alike where the parts are. -/
theorem Blueprint.Within.posted (hambient : AmbientHidden view) (h : b.Within view wire) :
    Blueprint.Alike (Noted.Alongside (SameView view)) (Request.Alike (Noted.Alongside (SameView view)))
      .deaf .deaf { b.posted wire with listener := none } { b.posted wire with listener := none } where
  endpoint := rfl
  transport := h.transport.noted Scribe.post_alike
  interceptors := List.forall₂_same.mpr (List.forall_mem_map.mpr fun i hi => (h.interceptors i hi).noted [])
  rules := List.forall₂_same.mpr (List.forall_mem_map.mpr fun r hr => (h.rules r hr).noted)
  mappers r r' hr v w hv := Mapper.applyAll_rel (Noted.effects_unseen hambient.unseen).effects
    (List.forall₂_same.mpr (List.forall_mem_map.mpr fun m hm => (h.mappers m hm).noted)) hr hv
  policy := by
    simp only [Blueprint.posted]
    cases hpolicy : b.policy with
    | none => exact .none
    | some p => exact .some (h.policy p hpolicy).silent
  listener := .none

/-! ### Calls -/

omit [Ambient W] in
/-- Clients that are alike have the same traffic. -/
theorem Exchange.Alike.traffic {x x' : Exchange (Noted W Posted)}
    (hx : x.Alike (Noted.Alongside (SameView view)) (Request.Alike (Noted.Alongside (SameView view))) x')
    {calls : List (Request W × Use W)} (hcalls : ∀ call ∈ calls, CallWithin view call) {w w' : W}
    (hw : view w = view w') : x.traffic calls w = x'.traffic calls w' := by
  induction calls generalizing w w' with
  | nil => rfl
  | cons call calls ih =>
    obtain ⟨request, use⟩ := call
    obtain ⟨hcall, hrest⟩ := List.forall_mem_cons.mp hcalls
    obtain ⟨hagree, hreceipt⟩ := hx.call hcall.request.noted hcall.use.noted
      (v := ⟨w, []⟩) (w := ⟨w', []⟩) ⟨hw, rfl⟩
    rw [Exchange.traffic, Exchange.traffic]
    generalize x.call request.noted use.noted ⟨w, []⟩ = result at hagree hreceipt ⊢
    generalize x'.call request.noted use.noted ⟨w', []⟩ = result' at hagree hreceipt ⊢
    obtain ⟨v, receipt⟩ := result
    obtain ⟨v', receipt'⟩ := result'
    cases hreceipt
    have hnotes : v.notes = v'.notes := hagree.2
    simp only [hnotes, ih hrest hagree.1]

omit [Ambient W] in
/-- What the transport writes down changes nothing of what the caller has. -/
theorem Exchange.Alike.served {x : Exchange (Noted W Posted)} {x' : Exchange W}
    (hx : x.Alike Noted.Over Request.Over x') (calls : List (Request W × Use W)) (w : W) :
    (x.traffic calls w).map Prod.snd = x'.served calls w := by
  induction calls generalizing w with
  | nil => rfl
  | cons call calls ih =>
    obtain ⟨request, use⟩ := call
    obtain ⟨hagree, hreceipt⟩ := hx.call (Request.plain_noted request) use.noted_alike (v := ⟨w, []⟩) rfl
    rw [Exchange.traffic, Exchange.served, List.map_cons, ih, hreceipt, hagree]

theorem Blueprint.posted_alike (wire : Wire W) (b : Blueprint W) :
    (b.posted wire).Alike Noted.Over Request.Over .deaf wire b where
  endpoint := rfl
  transport := Exchange.noted_alike .post _
  interceptors := List.forall₂_map_left_iff.mpr (List.forall₂_same.mpr fun i _ => i.noted_alike [])
  rules := List.forall₂_map_left_iff.mpr (List.forall₂_same.mpr fun rule _ => rule.noted_alike)
  mappers _ _ hr _ _ hv := Mapper.applyAll_rel Noted.ambient_alike.toEffectsAlike
    (List.forall₂_map_left_iff.mpr (List.forall₂_same.mpr fun m _ => m.noted_alike)) hr hv
  policy := by
    simp only [posted]
    cases b.policy with
    | none => exact .none
    | some p => exact .some p.silent_alike
  listener := by
    simp only [posted]
    cases b.listener with
    | none => exact .none
    | some l => exact .some (l.noted_alike fun _ => [])

/-- With a listener that is out of view, the traffic is that of a client without one. -/
theorem Blueprint.Within.traffic (hambient : AmbientHidden view) (h : b.Within view wire)
    {listener : Option (Listener W)} (hl : ∀ l ∈ listener, l.Hidden view)
    {calls : List (Request W × Use W)} (hcalls : ∀ call ∈ calls, CallWithin view call) {w w' : W}
    (hw : view w = view w') : Blueprint.traffic wire { b with listener := listener } calls w
      = Blueprint.traffic wire { b with listener := none } calls w' := by
  have hunseen : ∀ l ∈ listener.map (Listener.noted fun _ => ([] : List Posted)),
      l.Unseen (Noted.Alongside (SameView view)) := by
    intro l hmem
    obtain ⟨l', hl', rfl⟩ := Option.map_eq_some_iff.mp hmem
    exact (hl l' hl').unseen.noted
  have hposted := h.posted hambient
  have hpipeline := Blueprint.pipeline_unseen (Blueprint.posted wire { b with listener := listener })
    (b.posted wire) (Noted.effects_unseen hambient.unseen) hposted hunseen
  refine hpipeline.traffic hcalls ?_
  exact (hambient.record _ _ _ w).trans (hw.trans (hambient.record _ _ _ w').symm)

/-- Whoever listens to a client, and whatever it crashes over: the transport gets the same requests with
    the same chunks in each call, and the caller has the same of it. -/
theorem traffic_unwatched (hambient : AmbientHidden view) (hb : b.Within view wire)
    {listener listener' : Option (Listener W)} (hl : ∀ l ∈ listener, l.Hidden view)
    (hl' : ∀ l ∈ listener', l.Hidden view) {calls : List (Request W × Use W)}
    (hcalls : ∀ call ∈ calls, CallWithin view call) {w w' : W} (hw : view w = view w') :
    Blueprint.traffic wire { b with listener := listener } calls w
      = Blueprint.traffic wire { b with listener := listener' } calls w' ∧
    (Blueprint.traffic wire { b with listener := listener } calls w).map Prod.snd
      = Blueprint.served wire { b with listener := listener } calls w := by
  refine ⟨?_, ?_⟩
  -- either listener is compared with none
  · rw [hb.traffic hambient hl hcalls hw, hb.traffic hambient hl' hcalls (w := w') rfl]
  · have halike := (Blueprint.posted_alike wire { b with listener := listener }).pipeline Noted.ambient_alike
      fun r r' h => by cases h; exact ⟨rfl, rfl⟩
    exact halike.served calls _

/-! ### Calls on a stage -/

namespace Rehearsal

theorem Stage.ambient_hidden : AmbientHidden Stage.unwritten where
  record _ _ _ _ := rfl
  freshId _ := rfl
  pause d _ _ h := pause_same d h
  calendar _ _ h := congrArg (fun e : Duration => moment + e.nanos) (Stage.same_iff.mp h).1

theorem recorder_hidden (crashes : List String) : (recorder crashes).Hidden Stage.unwritten := fun _ _ => rfl

/-- A client that tries once more. -/
def persistent : Blueprint Stage where
  endpoint := ⟨"notes", .flux⟩
  target := none
  transport := some scripted
  interceptors := [(Edit.count 0).interceptor]
  rules := [.standard]
  mappers := [.ignore404]
  policy := some (Retry.BasicPolicy.transient 1).toPolicy
  listener := none

theorem persistent_within (wire : Wire Stage) : persistent.Within Stage.unwritten wire where
  transport := scripted_alike
  interceptors := List.forall_mem_singleton.mpr (edit_alike _)
  rules := List.forall_mem_singleton.mpr (Status.Rule.standard_alike Stage.ambient_hidden.unseen.effects)
  mappers := List.forall_mem_singleton.mpr Mapper.ignore404_alike
  policy p hp := by
    obtain rfl := Option.some.inj hp
    exact Retry.BasicPolicy.toPolicy_alike Stage.ambient_hidden.unseen.effects _

/-- A call that sends two chunks. -/
def upload : Request Stage × Use Stage :=
  (⟨.post, ⟨"http", none, false, "/", none, none⟩, [], some (.ofItems [.ok [49], .ok [50]])⟩,
    .toEnd fun _ => Stage.note .got)

theorem upload_within : CallWithin Stage.unwritten upload where
  request := ⟨rfl, rfl, rfl, .some ⟨rfl, .nil⟩⟩
  use _ _ _ h := .some h

/-- The first attempt meets no server, the second has two elements. -/
def fallen : Stage := .ofScript [⟨.fail (.transport .connect "refused"), .zero, true⟩,
  ⟨.items 200 [] (.ok []) [.ok (.ofNat 1), .ok (.ofNat 2)], .zero, true⟩]

/-- Crashes over every notice. -/
def crashing : Listener Stage :=
  recorder ["request_started", "request_body", "response_received", "body_element", "error_received",
    "retry_attempt"]

end Rehearsal

open Rehearsal in
/-- The listener crashes over every notice; both attempts get both chunks, and the caller gets no failure. -/
theorem traffic_of_crashing :
    let traffic := Blueprint.traffic .deaf { persistent with listener := some crashing } [upload] fallen
    traffic = Blueprint.traffic .deaf { persistent with listener := none } [upload] fallen ∧
    traffic.map (fun t => t.1.map fun r => r.chunks.map (·.filterMap Except.toOption))
      = [[some [[49], [50]], some [[49], [50]]]] ∧
    traffic.map (fun t => t.2.failure?) = [none] := by
  have hcrashing : ∀ l ∈ some crashing, l.Hidden Stage.unwritten := by
    intro l hl
    obtain rfl := Option.some.inj hl
    exact recorder_hidden _
  have hnone : ∀ l ∈ (none : Option (Listener Stage)), l.Hidden Stage.unwritten := fun l hl => nomatch hl
  obtain ⟨hsame, -⟩ := traffic_unwatched Stage.ambient_hidden (persistent_within .deaf) hcrashing hnone
    (List.forall_mem_singleton.mpr upload_within) (w := fallen) rfl
  refine ⟨hsame, ?_⟩
  rw [hsame]
  exact ⟨by decide +kernel, by decide +kernel⟩

end Courier
