import Courier.Proofs.Listener.Traffic
import Courier.Proofs.Sensitive.Log

/-! Logs of clients with other credentials.

    A client that is built of the parts of the library writes the same to the log whatever its credentials
    are, and whatever sensitive values its requests carry, as long as its transport answers the same
    (`credentials_veiled`). A transport over a wire does if the wire does (`Transport.exchange_veiled`). -/

namespace Courier

variable {V W P : Type}

/-! ### Transports -/

section Transports

variable (agree : V → W → Prop)

/-- The same answer, with chunks that are alike. -/
inductive Reply.Alike : Reply V → Reply W → Prop where
  | refused (kind : TransportKind) (message : String) : Alike (.refused kind message) (.refused kind message)
  | late (limit : Duration) : Alike (.late limit) (.late limit)
  | answered (status : Nat) (headers : Http.Headers) {chunks : Stream V (Except Failure Bytes)}
    {chunks' : Stream W (Except Failure Bytes)} (h : chunks.Alike agree chunks') :
    Alike (.answered status headers chunks) (.answered status headers chunks')

/-- Requests that differ in what is sensitive get the same answer. -/
def Wire.Veiled (wire : Wire V) (wire' : Wire W) : Prop :=
  ∀ settings r r', Request.Veiled agree r r' → ∀ v w, agree v w →
    agree (wire.send settings r v).1 (wire'.send settings r' w).1 ∧
      Reply.Alike agree (wire.send settings r v).2 (wire'.send settings r' w).2

end Transports

variable {agree : V → W → Prop}

namespace Transport

theorem readAll_alike {chunks : Stream V (Except Failure Bytes)} {chunks' : Stream W (Except Failure Bytes)}
    (h : chunks.Alike agree chunks') {v : V} {w : W} (hv : agree v w) :
    agree (readAll chunks v).1 (readAll chunks' w).1 ∧ (readAll chunks v).2 = (readAll chunks' w).2 := by
  obtain ⟨hagree, hsame⟩ := (h v w hv).collect
  rw [readAll, readAll, Stream.collect, Stream.collect]
  rcases hs : (chunks v).collect with ⟨v', e | cs | _⟩ <;>
    rcases ht : (chunks' w).collect with ⟨w', e' | cs' | _⟩ <;>
    rw [hs, ht] at hagree hsame <;> cases hsame <;> exact ⟨hagree, rfl⟩

theorem toResponse_alike (arity : Arity) (status : Nat) (headers : Http.Headers)
    {chunks : Stream V (Except Failure Bytes)} {chunks' : Stream W (Except Failure Bytes)}
    (h : chunks.Alike agree chunks') :
    (toResponse arity status headers chunks).Alike agree (toResponse arity status headers chunks') := by
  have hwhole : (wholeBody arity (Codec.contentType headers) chunks).Alike agree
      (wholeBody arity (Codec.contentType headers) chunks') := by
    intro v w hv
    obtain ⟨hagree, hsame⟩ := readAll_alike h hv
    rw [wholeBody, wholeBody]
    rcases hs : readAll chunks v with ⟨v', e | bytes | _⟩ <;>
      rcases ht : readAll chunks' w with ⟨w', e' | bytes' | _⟩ <;>
      rw [hs, ht] at hagree hsame <;> cases hsame
    · exact ⟨hagree, rfl, fun _ _ h => h⟩
    · simp only
      cases Codec.decodeBody arity (Codec.contentType headers) bytes with
      | error e => exact ⟨hagree, rfl, fun _ _ h => h⟩
      | ok js => exact ofList_alike _ v' w' hagree
    · exact hagree
  refine ⟨rfl, rfl, fun v w hv => ?_, fun v w hv => readAll_alike h hv⟩
  simp only [toResponse]
  split
  · exact ⟨hv, Codec.decodeLines_alike h⟩
  · exact ⟨hv, hwhole⟩

/-- The line that a transport writes to the log has nothing sensitive in it. -/
theorem exchange_veiled [Ambient V] [Ambient W] (heffects : EffectsAlike agree) {wire : Wire V} {wire' : Wire W}
    (hwire : wire.Veiled agree wire') (settings : WireSettings) (arity : Arity) :
    (exchange wire settings arity).Alike agree (Request.Veiled agree) (exchange wire' settings arity) := by
  intro r r' hr v w hv
  have hlogged := heffects.record .trace "Transport" (r.method.text ++ " " ++ r.uri.text) v w hv
  obtain ⟨hsent, hreply⟩ := hwire settings r r' hr _ _ hlogged
  simp only [exchange, ← hr.method, ← hr.uri]
  generalize wire.send settings r _ = sent at hsent hreply ⊢
  generalize wire'.send settings r' _ = sent' at hsent hreply ⊢
  obtain ⟨v', reply⟩ := sent
  obtain ⟨w', reply'⟩ := sent'
  cases hreply with
  | refused kind message => exact .refused _ hsent
  | late limit => exact .refused _ hsent
  | answered status headers h => exact .arrived hsent (toResponse_alike arity status headers h)

end Transport

/-! ### Surroundings with a log -/

variable [Ambient W]

/-- What is written to the log stands behind what was there, and nothing else writes on it. What waiting
    does to the view of the transport, and the calendar, can be told from that view; names of calls and
    clocks are not in it. -/
structure AmbientLogged (log : W → List LogLine) (view : W → P) : Prop extends AmbientHidden view where
  written : ∀ level part text w, log (Ambient.record level part text w) = log w ++ [⟨level, part, text⟩]
  waited : ∀ d w, log (Ambient.pause d w) = log w
  named : ∀ w, log (Ambient.freshId w).1 = log w

omit [Ambient W] in
/-- Logs that are the same but for the calls, and the same view. -/
def Unveiling (log : W → List LogLine) (view : W → P) (v w : W) : Prop := LogsAlike (log v) (log w) ∧ SameView view v w

variable {log : W → List LogLine} {view : W → P}

theorem AmbientLogged.effects (h : AmbientLogged log view) : EffectsVeiled (Unveiling log view) where
  record level part text text' htext v w hv := by
    refine ⟨?_, ?_⟩
    · rw [h.written, h.written]
      exact List.rel_append hv.1 (.cons ⟨rfl, rfl, htext⟩ .nil)
    · rw [SameView, h.record, h.record]
      exact hv.2
  pause d v w hv := by
    refine ⟨?_, h.pause d v w hv.2⟩
    rw [h.waited, h.waited]
    exact hv.1
  calendar v w hv := h.calendar v w hv.2
  freshId v w hv := by
    refine ⟨?_, ?_⟩
    · simp only [h.named]
      exact hv.1
    · rw [SameView, h.freshId, h.freshId]
      exact hv.2

/-! ### Clients -/

/-- Apart from transport and interceptors, only parts of the library: no status rule is added and no mapper
    but the one for what is not found, the policy is a basic one, and the listener writes to the log. -/
structure Blueprint.BuiltIn (b : Blueprint W) : Prop where
  rules : b.rules = []
  mappers : ∀ m ∈ b.mappers, m = .ignore404
  policy : ∀ p ∈ b.policy, ∃ basic : Retry.BasicPolicy, p = basic.toPolicy
  listener : ∀ l ∈ b.listener, ∃ c : Listener.CallLog, l = c.listener

omit [Ambient W] in
/-- The same parts with another transport and other interceptors. -/
def Blueprint.refit (b : Blueprint W) (transport : Option (Exchange W)) (interceptors : List (Interceptor W)) :
    Blueprint W := { b with transport := transport, interceptors := interceptors }

omit [Ambient W] in
/-- Calls one after the other: the surroundings behind them, and what the caller has of each. -/
def Exchange.series (x : Exchange W) : List (Request W × Use W) → W → W × List Receipt
  | [], w => (w, [])
  | (request, use) :: calls, w => match x.call request use w with
    | (w, receipt) => match series x calls w with
      | (w, receipts) => (w, receipt :: receipts)

/-- The calls of a client that is built of the parts. -/
def Blueprint.series (wire : Wire W) (b : Blueprint W) (calls : List (Request W × Use W)) (w : W) :
    W × List Receipt := match b.build wire w with
  | (w, client) => client.pipeline.series calls w

omit [Ambient W] in
/-- Calls by callers that do the same, with requests that differ in what is sensitive. -/
def CallsVeiled (agree : W → W → Prop) : List (Request W × Use W) → List (Request W × Use W) → Prop :=
  List.Forall₂ fun call call' => call.1.Veiled agree call'.1 ∧ call.2.Alike agree call'.2

omit [Ambient W] in
theorem Exchange.Alike.series {agree : W → W → Prop} {x x' : Exchange W} (hx : x.Alike agree (Request.Veiled agree) x')
    {calls calls' : List (Request W × Use W)} (h : CallsVeiled agree calls calls') :
    ∀ {v w}, agree v w → agree (x.series calls v).1 (x'.series calls' w).1 ∧
      (x.series calls v).2 = (x'.series calls' w).2 := by
  induction h with
  | nil => exact fun hv => ⟨hv, rfl⟩
  | cons hcall _ ih =>
    intro v w hv
    obtain ⟨hcalled, hreceipt⟩ := hx.call hcall.1 hcall.2 hv
    obtain ⟨hrest, hreceipts⟩ := ih hcalled
    exact ⟨hrest, congrArg₂ List.cons hreceipt hreceipts⟩

/-- Parts of the library do the same in surroundings that agree. -/
theorem Blueprint.BuiltIn.alike {agree : W → W → Prop} (heffects : EffectsAlike agree) {wire wire' : Wire W}
    {b : Blueprint W} (hb : b.BuiltIn) {transport : Option (Exchange W)}
    (htransport : (b.transport.getD (Transport.exchange wire ⟨none, true, none⟩ b.endpoint.arity)).Alike agree
      (Request.Veiled agree) (transport.getD (Transport.exchange wire' ⟨none, true, none⟩ b.endpoint.arity)))
    {interceptors : List (Interceptor W)}
    (hinterceptors : List.Forall₂ Interceptor.Veiled b.interceptors interceptors) :
    Blueprint.Alike agree (Request.Veiled agree) wire wire' { b with listener := none }
      { b.refit transport interceptors with listener := none } where
  endpoint := rfl
  transport := htransport
  interceptors := hinterceptors.imp fun _ _ h => h.alike heffects
  rules := by
    simp only [refit, hb.rules]
    exact .nil
  mappers r r' hr v w hv := by
    have hmappers : List.Forall₂ (Mapper.Alike agree) b.mappers b.mappers := by
      refine List.forall₂_same.mpr fun m hm => ?_
      rw [hb.mappers m hm]
      exact Mapper.ignore404_alike
    exact Mapper.applyAll_rel heffects hmappers hr hv
  policy := by
    have hpolicy := hb.policy
    simp only [refit]
    generalize b.policy = p at hpolicy ⊢
    cases p with
    | none => exact .none
    | some p =>
      obtain ⟨basic, rfl⟩ := hpolicy p rfl
      exact .some (basic.toPolicy_alike heffects)
  listener := .none

/-- The pipelines of clients that differ in their credentials. -/
theorem Blueprint.BuiltIn.pipeline {agree : W → W → Prop} (heffects : EffectsVeiled agree) {wire wire' : Wire W}
    {b : Blueprint W} (hb : b.BuiltIn) {transport : Option (Exchange W)}
    (htransport : (b.transport.getD (Transport.exchange wire ⟨none, true, none⟩ b.endpoint.arity)).Alike agree
      (Request.Veiled agree) (transport.getD (Transport.exchange wire' ⟨none, true, none⟩ b.endpoint.arity)))
    {interceptors : List (Interceptor W)}
    (hinterceptors : List.Forall₂ Interceptor.Veiled b.interceptors interceptors) :
    (b.pipeline wire).Alike agree (Request.Veiled agree) ((b.refit transport interceptors).pipeline wire') := by
  have halike := hb.alike heffects.effects htransport hinterceptors
  have hretried : ∀ c : Listener.CallLog, (b.retried wire c.listener).Alike agree (Request.Veiled agree)
      ((b.refit transport interceptors).retried wire' c.listener) := by
    intro c
    have hlistener : (c.listener (W := W)).Alike agree (c.listener (W := W)) :=
      fun key n e => c.listener_veiled heffects _ _ (.retryAttempt key n e)
    exact retried_alike heffects.effects hlistener rfl (halike.attempt heffects.effects) halike.policy
  cases hl : b.listener with
  | none =>
    rw [b.pipeline_unwatched wire hl, (b.refit transport interceptors).pipeline_unwatched wire' hl]
    exact hretried _
  | some l =>
    obtain ⟨c, rfl⟩ := hb.listener l hl
    rw [b.pipeline_watched wire hl, (b.refit transport interceptors).pipeline_watched wire' hl]
    exact Listener.exchange_veiled heffects (c.listener_veiled heffects) b.endpoint.key (hretried c)

/-- Whatever credentials the interceptors of a client send, and whatever sensitive values its requests carry:
    if the transport answers the same, the log has the same lines but for the names and times of calls, and
    the caller has the same of each call. In particular, header fields of responses that differ only in what
    is sensitive make the same lines. -/
theorem credentials_veiled (hambient : AmbientLogged log view) {wire wire' : Wire W} {b : Blueprint W}
    (hb : b.BuiltIn) {transport : Option (Exchange W)}
    (htransport : (b.transport.getD (Transport.exchange wire ⟨none, true, none⟩ b.endpoint.arity)).Alike
      (Unveiling log view) (Request.Veiled (Unveiling log view))
      (transport.getD (Transport.exchange wire' ⟨none, true, none⟩ b.endpoint.arity)))
    {interceptors : List (Interceptor W)}
    (hinterceptors : List.Forall₂ Interceptor.Veiled b.interceptors interceptors)
    {calls calls' : List (Request W × Use W)} (hcalls : CallsVeiled (Unveiling log view) calls calls') {v w : W}
    (hlog : LogsAlike (log v) (log w)) (hview : view v = view w) :
    let result := b.series wire calls v
    let result' := (b.refit transport interceptors).series wire' calls' w
    LogsAlike (log result.1) (log result'.1) ∧ result.2 = result'.2 ∧
    ∀ (c : Listener.CallLog) (call : CallContext) (status : Nat) (hs hs' : Http.Headers) (elapsed : Duration),
      hs.Veiled hs' → c.lines (W := W) (.responseReceived call status hs elapsed)
        = c.lines (W := W) (.responseReceived call status hs' elapsed) := by
  intro result result'
  have heffects := hambient.effects
  have hpipeline := hb.pipeline heffects htransport hinterceptors
  have hbuilt : Unveiling log view
      (Ambient.record .info "ReactiveFeign" ("Built client for " ++ b.endpoint.key) v)
      (Ambient.record .info "ReactiveFeign" ("Built client for " ++ b.endpoint.key) w) :=
    heffects.effects.record _ _ _ v w ⟨hlog, hview⟩
  obtain ⟨hagree, hreceipts⟩ := hpipeline.series hcalls hbuilt
  refine ⟨hagree.1, hreceipts, fun c call status hs hs' elapsed hhs => ?_⟩
  simp only [Listener.CallLog.lines, Listener.CallLog.arrowLines_veiled hhs]

/-! ### Calls at a desk -/

/-- Surroundings with a log and a clock, and a count of the requests that were answered. -/
structure Desk where
  lines : List LogLine
  answered : Nat
  clock : Nat
  ids : Nat

namespace Desk

instance : Ambient Desk where
  record level part text d := { d with lines := d.lines ++ [⟨level, part, text⟩] }
  pause t d := { d with clock := d.clock + t.nanos }
  elapsed d := .ofNanos d.clock
  calendar _ := 0
  freshId d := ({ d with ids := d.ids + 1 }, String.ofList (List.replicate 32 (Nat.digitChar d.ids)))

/-- The first request is turned away, the second gets a number. An answer takes as long as it has taken from
    the start of the clock. -/
def wire : Wire Desk where
  send _ _ d := ({ d with answered := d.answered + 1, clock := 2 * d.clock },
    if d.answered = 0 then .answered 503 [] .empty
    else .answered 200 [(⟨"set-cookie"⟩, [⟨Text.ascii "k=v", true⟩])] (Stream.ofList [.ok (Text.ascii "7")]))

/-- A client with credentials that tries once more. -/
def orders (c : Interceptor.Credentials) : Blueprint Desk :=
  { Blueprint.ofEndpoint ⟨"orders", .mono⟩ with
    interceptors := [.chain [.basicAuth c]]
    mappers := [.ignore404]
    policy := some (Retry.BasicPolicy.transient 1).toPolicy
    listener := some Listener.CallLog.verbose.listener }

/-- A request with a token. -/
def order (token : String) : Request Desk :=
  ⟨.get, ⟨"http", none, false, "/", none, none⟩,
    [(⟨"x-token"⟩, [⟨Text.ascii token, true⟩]), (⟨"accept"⟩, [⟨Text.ascii "*/*", false⟩])], none⟩

theorem ambient_logged : AmbientLogged lines answered where
  record _ _ _ _ := rfl
  freshId _ := rfl
  pause _ _ _ h := h
  calendar _ _ _ := rfl
  written _ _ _ _ := rfl
  waited _ _ := rfl
  named _ := rfl

/-- An answer depends on nothing but how many there were. -/
theorem wire_veiled : wire.Veiled (Unveiling lines answered) wire := by
  rintro settings r r' - d d' ⟨hlines, hanswered⟩
  rw [SameView] at hanswered
  simp only [wire, hanswered]
  refine ⟨⟨hlines, rfl⟩, ?_⟩
  split
  · exact .answered _ _ fun _ _ h => h
  · exact .answered _ _ (ofList_alike _)

theorem orders_builtIn (c : Interceptor.Credentials) : (orders c).BuiltIn where
  rules := rfl
  mappers _ h := List.mem_singleton.mp h
  policy _ h := ⟨_, (Option.some.inj h).symm⟩
  listener _ h := ⟨_, (Option.some.inj h).symm⟩

theorem order_veiled (token token' : String) {agree : Desk → Desk → Prop} :
    (order token).Veiled agree (order token') :=
  ⟨rfl, rfl, .cons ⟨rfl, .cons (.inr ⟨rfl, rfl⟩) .nil⟩ (Http.Headers.Veiled.refl _), .none⟩

end Desk

open Desk in
/-- Neither the password nor the token can be told from the log. -/
theorem orders_veiled :
    let result := (orders ⟨"ann", "tulip"⟩).series wire [(order "first", .toEnd fun _ d => d)] ⟨[], 0, 0, 1⟩
    let result' := (orders ⟨"bob", "rose"⟩).series wire [(order "second", .toEnd fun _ d => d)]
      ⟨[], 0, 1000000, 2⟩
    (LogsAlike result.1.lines result'.1.lines ∧ result.2 = result'.2 ∧
      ∀ (c : Listener.CallLog) (call : CallContext) (status : Nat) (hs hs' : Http.Headers) (elapsed : Duration),
        hs.Veiled hs' → c.lines (W := Desk) (.responseReceived call status hs elapsed)
          = c.lines (W := Desk) (.responseReceived call status hs' elapsed)) ∧
    (result'.1.lines.filter (·.part == "ReactiveLogger")).map LogLine.text = [
      "[orders:22222222] --> GET http:/", "[orders:22222222] --> x-token: ***",
      "[orders:22222222] --> accept: */*",
      "[orders] retry #1 after: status 503 reading orders: Service Unavailable",
      "[orders:22222222] <-- 200 (3ms)", "[orders:22222222] <-- set-cookie: ***", "[orders:22222222] <-- 7 (3ms)"] := by
  refine ⟨?_, by decide +kernel⟩
  have hcredentials : List.Forall₂ Interceptor.Veiled (orders ⟨"ann", "tulip"⟩).interceptors
      (orders ⟨"bob", "rose"⟩).interceptors := .cons (.chain (.cons (.basicAuth _ _) .nil)) .nil
  have hcalls : CallsVeiled (Unveiling lines answered) [(order "first", .toEnd fun _ d => d)]
      [(order "second", .toEnd fun _ d => d)] :=
    .cons ⟨order_veiled _ _, fun _ _ _ h => .some h⟩ .nil
  have htransport : Exchange.Alike (Unveiling lines answered) (Request.Veiled (Unveiling lines answered))
      ((orders ⟨"ann", "tulip"⟩).transport.getD (Transport.exchange wire ⟨none, true, none⟩ .mono))
      ((orders ⟨"bob", "rose"⟩).transport.getD (Transport.exchange wire ⟨none, true, none⟩ .mono)) :=
    Transport.exchange_veiled ambient_logged.effects.effects wire_veiled _ _
  exact credentials_veiled ambient_logged (orders_builtIn _) htransport hcredentials hcalls .nil rfl

end Courier
