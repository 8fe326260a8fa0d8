import Courier.Proofs.Listener.Account
import Courier.Proofs.Quiet

/-! Failures that a listener hears of.

    A listener hears of a failure when the caller gets it in place of a response or of an element, once for
    each, and of no other. When the caller asks for the bytes of a body and gets a failure in their place,
    nobody hears of it (`failures_told`). -/

namespace Courier

variable {W E α : Type}

/-! ### Failures of a call -/

/-- The failure in place of something. -/
def failureIn : Except Failure α → List Failure
  | .error e => [e]
  | .ok _ => []

/-- The failure that comes in place of something. -/
def Eventual.failures : Eventual Failure α → List Failure
  | .error e => [e]
  | _ => []

/-- The failures that a caller has of a body. -/
def Taken.failures : Taken → List Failure
  | .nothing => []
  | .items got => got.items.flatMap failureIn
  | .bytes result => result.failures

/-- The failures that a caller has of a call. -/
def Receipt.failures : Receipt → List Failure
  | .refused e => [e]
  | .waiting => []
  | .response _ _ taken => taken.failures

/-- The failures of a body that a listener hears of: those among its elements. -/
def Taken.told : Taken → List Failure
  | .items got => got.items.flatMap failureIn
  | _ => []

/-- The failures of a call that a listener hears of. -/
def Receipt.told : Receipt → List Failure
  | .refused e => [e]
  | .waiting => []
  | .response _ _ taken => taken.told

/-- Only a failure in place of bytes is not heard of. -/
theorem Receipt.told_eq_failures_iff (receipt : Receipt) : receipt.told = receipt.failures ↔
    ∀ status headers e, receipt ≠ .response status headers (.bytes (.error e)) := by
  constructor
  · rintro h status headers e rfl
    cases h
  · intro h
    rcases receipt with e | _ | ⟨status, headers, _ | got | e | bytes | _⟩
    case response.bytes.error => exact absurd rfl (h status headers e)
    all_goals rfl

/-- What a listener notes that notes failures. -/
def Notice.failures (n : Notice W) : List Failure := n.error?.toList

/-! ### Reading -/

/-- What a hook notes of the items that have been read is all that is noted on the way. -/
theorem Step.Quiet.readBy_tap {f : α → Noted W E → Noted W E} {note : α → List E}
    (hf : ∀ x v, (f x v).notes = v.notes ++ note x) {r : Reader (Noted W E) α}
    (hr : ∀ seen v v', r seen v = some v' → v'.notes = v.notes) :
    ∀ {t : Step (Noted W E) α} {notes : List E}, t.Quiet notes → ∀ seen, ∃ later,
      ((t.tap f).readBy r seen).2.items = seen ++ later ∧
        ((t.tap f).readBy r seen).1.notes = notes ++ later.flatMap note
  | .done v, notes, hv, seen => ⟨[], (List.append_nil seen).symm, hv.trans (List.append_nil notes).symm⟩
  | .never v, notes, hv, seen => ⟨[], (List.append_nil seen).symm, hv.trans (List.append_nil notes).symm⟩
  | .item v x more, notes, ⟨hv, hmore⟩, seen => by
    have hx : (f x v).notes = notes ++ note x := hv ▸ hf x v
    rw [Step.tap, Step.readBy]
    cases h : r (seen ++ [x]) (f x v) with
    | none => exact ⟨[x], rfl, by rw [hx, List.flatMap_singleton]⟩
    | some v' =>
      obtain ⟨later, hseen, hnotes⟩ := (hmore v').readBy_tap hf hr (seen ++ [x])
      refine ⟨x :: later, by rw [hseen, List.append_assoc]; rfl, ?_⟩
      rw [hnotes, hr _ _ _ h, hx, List.append_assoc, List.flatMap_cons]

variable [Ambient W] (l : Listener W)

namespace Listener

theorem tellItem_notes (call : CallContext) (item : Except Failure Json) (v : Noted W Failure) :
    ((l.noted Notice.failures).tellItem call item v).notes = v.notes ++ failureIn item := by
  cases item <;> exact l.notify_noted Notice.failures _ v

/-- Whatever a caller does with a response, the listener hears of the failures among the elements. -/
theorem serve_notes (call : CallContext) {r : Response (Noted W Failure)} (hr : r.Quiet) (use : Use W)
    (v : Noted W Failure) : (((l.noted Notice.failures).watchResponse call r).serve use.noted v).1.notes
      = v.notes ++ (((l.noted Notice.failures).watchResponse call r).serve use.noted v).2.told := by
  have hkeeps := use.noted_keeps (E := Failure)
  cases use with
  | leave => exact (List.append_nil _).symm
  | data => exact (hr.data v).trans (List.append_nil _).symm
  | body reader =>
    obtain ⟨hbody, hitems⟩ := hr.body v
    simp only [Response.serve, Use.noted, watchResponse, Stream.readBy]
    cases h : (reader [] (r.body v).1.world).map fun w => (⟨w, (r.body v).1.notes⟩ : Noted W Failure) with
    | none => exact hbody.trans (List.append_nil _).symm
    | some v' =>
      obtain ⟨later, hseen, hnotes⟩ := (hitems v').readBy_tap (l.tellItem_notes call) hkeeps []
      simp only [Stream.tap] at hseen hnotes ⊢
      rw [hnotes, hkeeps _ _ _ h, hbody, Taken.told, hseen, List.nil_append]

/-- Whatever comes of a call, the listener hears of it what it hears of failures, and of no other. -/
theorem call_notes (methodKey : String) (x : Exchange W) (request : Request (Noted W Failure)) (use : Use W)
    (v : Noted W Failure) :
    let result := ((l.noted Notice.failures).exchange methodKey (x.noted .silent)).call request use.noted v
    result.1.notes = v.notes ++ result.2.told := by
  intro result
  rcases hstart : CallContext.start methodKey request v with ⟨v₁, call⟩
  have hfresh : v₁.notes = v.notes := congrArg (·.1.notes) hstart.symm
  let started := (l.noted Notice.failures).notify (.requestStarted call request) v₁
  have hstarted : started.notes = v.notes := by
    rw [Listener.notify_noted, hfresh]
    exact List.append_nil _
  rcases hx : (x.noted .silent).execute ((l.noted Notice.failures).watchRequest call request) started
    with ⟨v₂, e | r | _⟩
  · have hsent := Exchange.notes_of_error hx
    have hresult : result = _ := (l.noted Notice.failures).watched_of_error hstart hx _
    rw [hresult, Listener.notify_noted, hsent, hstarted, List.append_assoc]
    rfl
  · obtain ⟨hsent, r, rfl⟩ := Exchange.notes_of_ok hx
    let answered := (l.noted Notice.failures).notify
      (.responseReceived call r.status r.headers (call.elapsed v₂)) v₂
    have hanswered : answered.notes = v.notes := by
      rw [Listener.notify_noted, hsent, hstarted, List.append_assoc]
      exact List.append_nil _
    have hresult : result = _ := (l.noted Notice.failures).watched_of_ok hstart hx _
    have hserved := l.serve_notes call (r.noted_quiet (s := .silent) rfl rfl rfl) use answered
    rw [hanswered] at hserved
    rw [hresult]
    exact hserved
  · have hsent := Exchange.notes_of_never hx
    have hresult : result = (v₂, .waiting) := (l.noted Notice.failures).watched_of_never hstart hx _
    rw [hresult, hsent, hstarted]
    rfl

end Listener

/-- Whatever the exchange, the listener and the caller do: what the listener hears of failures during a call
    is each failure that the caller gets in place of the response or of an element, once and in order, and
    nothing else. These are all failures that the caller has of the call, unless it has asked for the bytes of
    a body and got a failure in their place. That the listener notes what it hears changes neither the
    surroundings nor what the caller has of the call. -/
theorem failures_told (methodKey : String) (x : Exchange W) (request : Request W) (use : Use W) (w : W) :
    let noted := ((l.noted Notice.failures).exchange methodKey (x.noted .silent)).call request.noted use.noted ⟨w, []⟩
    let result := (l.exchange methodKey x).call request use w
    (noted.1.world, noted.2) = result ∧ noted.1.notes = result.2.told ∧
    (result.2.told = result.2.failures ↔
      ∀ status headers e, result.2 ≠ .response status headers (.bytes (.error e))) := by
  intro noted result
  have hexchange := Listener.exchange_alike Noted.ambient_alike (fun r r' h => by cases h; exact ⟨rfl, rfl⟩)
    (l.noted_alike Notice.failures) methodKey (x.noted_alike (.silent (E := Failure)))
  obtain ⟨hworld, hreceipt⟩ : noted.1.world = result.1 ∧ noted.2 = result.2 :=
    hexchange.call (Request.plain_noted request) use.noted_alike rfl
  exact ⟨Prod.ext hworld hreceipt, hreceipt ▸ l.call_notes methodKey x request.noted use ⟨w, []⟩,
    result.2.told_eq_failures_iff⟩

open Rehearsal in
/-- The bytes of an error status are asked for: the caller gets a failure that nobody has heard of. -/
example :
    let stage := Stage.ofScript [⟨.buffered ⟨500, .flux, [], []⟩, .zero, true⟩]
    let b := { persistent with policy := none, listener := some (recorder []) }
    let result := (b.build .deaf stage).2.pipeline.call upload.1 .data stage
    result.2.failures.map Failure.text = ["status 500 reading notes: Internal Server Error"] ∧
    result.1.heard.map Event.label = ["request_started", "request_body", "response_received"] := by
  decide +kernel

end Courier
