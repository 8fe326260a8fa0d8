import Courier.Proofs.Codec
import Courier.Proofs.Retry.Call
import Courier.Rehearsal.Stage

/-! Bytes of a response that was handed out.

    With a retry policy the bytes of a body are its elements, encoded again, while the headers stay. The
    headers may ask for a form that the bytes are not in: `data_reads_back` says when the bytes decode to
    the elements that the body had. -/

namespace Courier

variable {W : Type}

/-- Each item is the next of the elements, whenever it is asked for, and there are no others. -/
def Step.Yields : Step W (Except Failure Json) → List Json → Prop
  | .done _, js => js = []
  | .never _, _ => False
  | .item _ (.error _) _, _ => False
  | .item _ (.ok j) more, js => ∃ rest, js = j :: rest ∧ ∀ w, Yields (more w) rest

/-- The body of the response has these elements. -/
def Response.Holds (r : Response W) (js : List Json) : Prop := ∀ w, ((r.body w).2 (r.body w).1).Yields js

theorem ofList_yields : ∀ (js : List Json) (w : W), (Stream.ofList (js.map .ok) w).Yields js
  | [], _ => rfl
  | _ :: js, _ => ⟨js, rfl, ofList_yields js⟩

/-- Answers every request in the same way. -/
def Exchange.always (r : BufferedResponse) : Exchange W := ⟨"always", fun _ w => (w, .ok r.toResponse)⟩

/-- A response in memory has the elements that its bytes decode to. -/
theorem BufferedResponse.holds (r : BufferedResponse) {js : List Json}
    (h : Codec.decodeBody r.arity (Codec.contentType r.headers) r.bytes = .ok js) :
    (r.toResponse : Response W).Holds js := by
  intro w
  have hbody : (r.toResponse : Response W).body w = (w, Stream.ofList r.elements) := rfl
  rw [hbody, elements, h]
  exact ofList_yields js w

theorem Step.Yields.collect : ∀ {t : Step W (Except Failure Json)} {js : List Json}, t.Yields js →
    ∃ w, t.collect = (w, .ok js)
  | .done w, _, h => ⟨w, by cases h; rfl⟩
  | .item w (.ok j) more, _, ⟨rest, hjs, hmore⟩ => by
    obtain ⟨w', hrest⟩ := (hmore w).collect
    exact ⟨w', by rw [hjs, Step.collect, hrest]⟩

namespace Retry

variable {a : Attempts W} {inner : Exchange W} {request : Request W} {p : Primed W} {js : List Json}
  {w w' : W}

/-- Whatever would happen after a failure, elements without one stay as they are. -/
theorem splice_yields (resume : Failure → W → Step W (Except Failure Json)) :
    ∀ {t : Step W (Except Failure Json)} {js : List Json}, t.Yields js → (splice resume t).Yields js
  | .done _, _, h => h
  | .item _ (.ok _) _, _, ⟨rest, hjs, hmore⟩ => ⟨rest, hjs, fun w => splice_yields resume (hmore w)⟩

/-- The first element and the others are these. -/
structure Primed.Holds (p : Primed W) (js : List Json) : Prop where
  rest : ∃ rest, js = p.first.toList ++ rest ∧ ∀ w, (p.rest w).Yields rest
  none : p.first = .none → js = []

/-- An attempt that got to its first element has the status, headers and elements of its response. -/
theorem prime_holds (h : prime inner request w = (w', .ok p)) : ∃ v r, inner.execute request w = (v, .ok r) ∧
    p.status = r.status ∧ p.headers = r.headers ∧ ∀ js, r.Holds js → p.Holds js := by
  rw [prime] at h
  rcases hexecute : inner.execute request w with ⟨v, e | r | _⟩
  · rw [hexecute] at h
    cases h
  · rw [hexecute] at h
    refine ⟨v, r, rfl, ?_⟩
    simp only at h
    rcases hitems : (r.body v).2 (r.body v).1 with w₁ | ⟨w₁, e | j, more⟩ | w₁
    · rw [hitems] at h
      cases h
      refine ⟨rfl, rfl, fun js hjs => ?_⟩
      have hyields := hjs v
      rw [hitems] at hyields
      cases hyields
      exact ⟨⟨[], rfl, fun _ => rfl⟩, fun _ => rfl⟩
    · rw [hitems] at h
      cases h
    · rw [hitems] at h
      cases h
      refine ⟨rfl, rfl, fun js hjs => ?_⟩
      have hyields := hjs v
      rw [hitems] at hyields
      obtain ⟨rest, rfl, hrest⟩ := hyields
      exact ⟨⟨rest, rfl, hrest⟩, fun hnone => absurd hnone (Option.some_ne_none j)⟩
    · rw [hitems] at h
      cases h
  · rw [hexecute] at h
    cases h

/-- The bytes of a response that was handed out are its elements, encoded again. -/
theorem Primed.Holds.data (h : p.Holds js) (arity : Arity) (resume : Failure → W → Outcome W) (w : W) :
    ∃ w', (toResponse arity p resume).data w = (w', .ok (Codec.encodeElements arity js)) := by
  obtain ⟨rest, rfl, hrest⟩ := h.rest
  cases arity with
  | mono =>
    obtain ⟨w', hcollect⟩ := (ofList_yields p.first.toList w).collect
    have hencode : Codec.encodeElements .mono (p.first.toList ++ rest)
        = Codec.encodeElements .mono p.first.toList := by
      cases hf : p.first with
      | none => rw [← hf, h.none hf, hf]; rfl
      | some j => rfl
    refine ⟨w', ?_⟩
    rw [toResponse_data, Primed.items, hcollect, hencode]
  | flux =>
    have helements : (Outcome.primed w p resume).elements.Yields (p.first.toList ++ rest) := by
      rw [Outcome.elements]
      cases hf : p.first with
      | none => exact splice_yields _ (hrest w)
      | some j => exact ⟨rest, rfl, fun w' => splice_yields _ (hrest w')⟩
    obtain ⟨w', hcollect⟩ := helements.collect
    refine ⟨w', ?_⟩
    rw [toResponse_data, Primed.items, hcollect]

variable [Ambient W]

/-- Whatever the policy says, a response that is handed out is that of some attempt. -/
theorem converse_primed {resume : Failure → W → Outcome W} : ∀ (session : Session W)
    (queue : List Failure) (last : Failure) (n : Nat) (w : W),
    converse a session queue last n w = .primed w' p resume →
      ∃ v, prime a.inner a.request v = (w', .ok p)
  | .closed, _, _, _, _, h => nomatch h
  | .await _, [], _, _, _, h => nomatch h
  | .await next, e :: queue, last, n, w, h => converse_primed (next e) queue last n w h
  | .perform effect rest, queue, last, n, w, h => converse_primed (rest (effect w)) queue last n _ h
  | .answer (.error _) _, _, _, _, _, h => nomatch h
  | .answer (.ok ()) rest, queue, last, n, w, h => by
    rw [converse] at h
    simp only at h
    split at h
    · next hprime => cases h; exact ⟨_, hprime⟩
    · exact converse_primed rest _ _ _ _ h
    · cases h

theorem run_primed {policy : Policy W} {resume : Failure → W → Outcome W}
    (h : run a policy w = .primed w' p resume) : ∃ v, prime a.inner a.request v = (w', .ok p) := by
  rw [run] at h
  simp only at h
  split at h
  · next hprime => cases h; exact ⟨_, hprime⟩
  · exact converse_primed _ _ _ _ _ h
  · cases h

/-- The response of a call with retries has status and headers of the response of some attempt. If the
    body of that response decodes to some elements, then the bytes of the former decode to these exactly
    if all their numbers come back, and many results that are not lines are at most one element and no
    list: lines are what they are encoded as, whatever the headers say. -/
theorem data_reads_back (policy : Policy W) (listener : Listener W) (endpoint : Endpoint)
    (inner : Exchange W) (request : Request W) {w w₁ : W} {r : Response W}
    (h : (exchange policy listener endpoint inner).execute request w = (w₁, .ok r)) :
    ∃ v v₁ r₀, inner.execute request v = (v₁, .ok r₀) ∧ r.status = r₀.status ∧ r.headers = r₀.headers ∧
      ∀ body js, Codec.decodeBody endpoint.arity (Codec.contentType r₀.headers) body = .ok js →
        r₀.Holds js → ∀ w₂, ∃ w₃ bytes, r.data w₂ = (w₃, .ok bytes) ∧
          (Codec.decodeBody endpoint.arity (Codec.contentType r.headers) bytes = .ok js ↔
            Codec.ReadsBack endpoint.arity (Codec.contentType r.headers) js) := by
  rw [exchange_execute] at h
  cases hrun : run ⟨endpoint.key, listener, inner, request⟩ policy w with
  | failed w' e => rw [hrun] at h; cases h
  | never w' => rw [hrun] at h; cases h
  | primed w' p resume =>
    rw [hrun] at h
    cases h
    obtain ⟨v, hprime⟩ := run_primed hrun
    obtain ⟨v₁, r₀, hinner, hstatus, hheaders, hholds⟩ := prime_holds hprime
    refine ⟨v, v₁, r₀, hinner, hstatus, hheaders, fun body js hbody hjs w₂ => ?_⟩
    obtain ⟨w₃, hdata⟩ := (hholds js hjs).data endpoint.arity resume w₂
    refine ⟨w₃, _, hdata, ?_⟩
    have hkept : (toResponse endpoint.arity p resume).headers = r₀.headers := hheaders
    rw [hkept]
    exact Codec.decode_encode_iff hbody

/-- An answer that starts with an element is handed out at once. -/
theorem always_execute {answer : BufferedResponse} {j : Json}
    (h : Codec.decodeBody answer.arity (Codec.contentType answer.headers) answer.bytes = .ok (j :: js))
    (policy : Policy W) (listener : Listener W) (endpoint : Endpoint) (request : Request W) (w : W) :
    ∃ w' r, (exchange policy listener endpoint (.always answer)).execute request w = (w', .ok r) := by
  have helements : answer.elements = .ok j :: js.map .ok := by
    rw [BufferedResponse.elements, h]
    rfl
  have hprime : prime (.always answer) request (policy.opening w).1 = ((policy.opening w).1,
      .ok ⟨answer.status, answer.headers, some j, Stream.ofList (js.map .ok)⟩) := by
    simp only [prime, Exchange.always, BufferedResponse.toResponse, helements, Stream.ofList]
  rw [exchange_execute, run]
  simp only [hprime]
  exact ⟨_, _, rfl⟩

/-- A JSON array of two numbers. -/
def pair : BufferedResponse :=
  ⟨200, .flux, [(Codec.contentTypeName, [⟨Text.bytes "application/json", false⟩])], Text.bytes "[1,2]"⟩

theorem pair_decodes : Codec.decodeBody pair.arity (Codec.contentType pair.headers) pair.bytes
    = .ok [.ofNat 1, .ofNat 2] := by rfl

/-- A JSON array of two comes back as two lines, and these are no JSON text. -/
theorem data_of_pair : ∃ (w w' : Rehearsal.Stage) (r : Response Rehearsal.Stage) (bytes : Bytes),
    (exchange (BasicPolicy.transient 0).toPolicy .silent ⟨"numbers", .flux⟩ (.always pair)).execute
      (.make .get ⟨"http", none, false, "/", none, none⟩) (.ofScript []) = (w, .ok r) ∧
    Codec.contentType r.headers = some "application/json" ∧ r.data w = (w', .ok bytes) ∧
    Codec.decodeBody .flux (Codec.contentType r.headers) bytes ≠ .ok [.ofNat 1, .ofNat 2] := by
  obtain ⟨w, r, h⟩ := always_execute pair_decodes (BasicPolicy.transient 0).toPolicy .silent
    ⟨"numbers", .flux⟩ (.make .get ⟨"http", none, false, "/", none, none⟩) (Rehearsal.Stage.ofScript [])
  obtain ⟨v, v₁, r₀, hinner, -, hheaders, hdata⟩ := data_reads_back _ _ _ _ _ h
  obtain rfl : pair.toResponse = r₀ := Eventual.ok.inj (Prod.mk.inj hinner).2
  obtain ⟨w', bytes, hbytes, hiff⟩ := hdata pair.bytes _ pair_decodes
    (pair.holds pair_decodes) w
  have htype : Codec.contentType r.headers = some "application/json" := by
    rw [hheaders]
    rfl
  refine ⟨w, w', r, bytes, h, htype, hbytes, fun hback => ?_⟩
  have hone := (hiff.mp hback).2 rfl (by rw [htype]; rfl)
  rcases hone with hnone | ⟨j, hone, -⟩
  · cases hnone
  · cases hone

end Retry
end Courier
