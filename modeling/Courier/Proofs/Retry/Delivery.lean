import Courier.Proofs.Retry.Protocol

/-! What a caller gets of a call with retries.

    A caller that reads the body to its end gets the elements of all attempts, each up to its failure,
    and one failure if the policy gives up; if the policy never answers or an attempt never goes on, the
    caller waits with it (`call_delivers`). -/

namespace Courier.Retry

variable {W : Type} [Ambient W]

/-- The call is refused if the policy gives up before any attempt's body starts with an element or is
    empty; else the caller gets status and headers of the first attempt that gets so far. A body of many
    results has the elements of all attempts in their order, and at its end the failure of the policy, or
    the last one, if the policy gives up. A body of one result has the first element of the attempt that
    was handed out, and nothing is tried again. A policy gives up by an answer or by having none left, which
    can be seen in either case. The caller waits for good if the policy waits for a failure when there is
    none, or if an attempt never goes on. -/
theorem call_delivers (policy : Policy W) (listener : Listener W) (endpoint : Endpoint)
    (inner : Exchange W) (request : Request W) (act : List (Except Failure Json) → W → W) (w : W) :
    let log := transcript policy listener endpoint inner request (.toEnd act) w
    ∃ h : History,
      log.filter Event.shows = .opened :: h.marks.flatMap (Mark.events endpoint.key request) ∧
      h.ending.leaves (heard log) ∧
      match ((exchange policy listener endpoint inner).call request (.toEnd act) w).2 with
      | .refused e => h.opened = none ∧ h.ending.verdict = some e
      | .waiting => h.opened = none ∧ h.ending.waits
      | .response status headers taken => h.opened = some (status, headers) ∧ match endpoint.arity with
        | .flux => h.ending.over ∧
          taken = .items ⟨h.elements.map .ok ++ h.ending.verdict.toList.map .error, h.ending.waits⟩
        | .mono => h.trials.flatMap Trial.elements = [] ∧ h.ending.verdict = none ∧
          h.ending.waits = false ∧ h.ending.elements.length ≤ 1 ∧
          taken = .items ⟨h.ending.elements.map .ok, false⟩ := by
  intro log
  let acts : Noted W (Event W) → Noted W (Event W) → Prop := fun v v' => v'.notes = v.notes
  have hacts : ∀ (seen : List (Except Failure Json)) (v : Noted W (Event W)), acts v (v.act (act seen)) :=
    fun _ _ => rfl
  obtain ⟨ms, s, hpath, hidle, hreceipt⟩ := call_toEnd policy.noted (listener.noted fun n => [.told n])
    endpoint (inner.noted scribe) request.noted hacts ⟨w, []⟩
  obtain ⟨h, rfl, hends, hshown, hleaves⟩ := path_notes policy listener endpoint inner request w hpath hidle
  obtain ⟨hverdict, hover, hwaits⟩ := hends.same
  refine ⟨h, hshown, hleaves, ?_⟩
  -- the path is one of the call with notes, and that has the receipt of the call without them
  obtain ⟨-, hplain⟩ := notedCall_plain policy listener endpoint inner request (.toEnd act) w
  have hsame : ((exchange policy listener endpoint inner).call request (.toEnd act) w).2
      = ((exchange policy.noted (listener.noted fun n => [.told n]) endpoint (inner.noted scribe)).call
        request.noted (.toEnd fun seen v => v.act (act seen)) ⟨w, []⟩).2 := hplain.symm
  have hrefusal : s.refusal = h.ending.verdict.toList.map .error := by rw [Phase.refusal, hverdict]
  rw [h.handedOut_marks] at hreceipt
  rw [hsame]
  revert hreceipt
  cases ((exchange policy.noted (listener.noted fun n => [.told n]) endpoint (inner.noted scribe)).call
    request.noted (.toEnd fun seen v => v.act (act seen)) ⟨w, []⟩).2 with
  | refused e =>
    rintro ⟨hopened, rfl⟩
    exact ⟨hopened, hverdict.symm⟩
  | waiting =>
    rintro ⟨hopened, hwaiting⟩
    exact ⟨hopened, hwaits ▸ hwaiting⟩
  | response status headers taken =>
    rintro ⟨hopened, htaken, hflux, hmono⟩
    rw [h.elements_marks] at htaken
    refine ⟨hopened, ?_⟩
    cases ha : endpoint.arity with
    | flux => exact ⟨hover.mp (hflux ha), by rw [htaken, hrefusal, hwaits]⟩
    | mono =>
      obtain ⟨hlast, hnone, hdone⟩ := hmono ha
      obtain ⟨htrials, hlength⟩ := h.elements_of_dropLast hlast
      refine ⟨htrials, ?_, hwaits.symm.trans hdone, hlength, ?_⟩
      · cases hv : h.ending.verdict with
        | none => rfl
        | some e => rw [hnone, hv] at hrefusal; cases hrefusal
      · rw [htaken, hnone, hdone, History.elements, htrials, List.nil_append, List.append_nil]

end Courier.Retry
