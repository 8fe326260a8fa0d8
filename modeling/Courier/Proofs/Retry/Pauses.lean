import Courier.Retry.Exchange

/-! Waiting between attempts.

    Under the basic policy a call is attempt after attempt. Between a failure and the next attempt the policy
    pauses once, for as long as the failure asks for, or for as long as the backoff says if it asks for
    nothing (`run_tries`). -/

namespace Courier.Retry

variable {W : Type} [Ambient W] (p : BasicPolicy) (a : Attempts W)

mutual

/-- What comes of a call that has been tried again `n` times, and is tried now. -/
inductive Tries : Nat → W → Outcome W → Prop
  | answered {n w w' response resume} (h : prime a.inner a.request w = (w', .ok response))
      (hresume : ∀ e v, Fails n e v (resume e v)) : Tries n w (.primed w' response resume)
  | broken {n w w' e o} (h : prime a.inner a.request w = (w', .error e)) (ho : Fails n e w' o) : Tries n w o
  | stalled {n w w'} (h : prime a.inner a.request w = (w', .never)) : Tries n w (.never w')

/-- What comes of such a call when the attempt has failed: the policy gives up, or it pauses and the call is
    tried once more. -/
inductive Fails : Nat → Failure → W → Outcome W → Prop
  | ended {n e w} (h : n = p.maxRetries ∨ p.accepts e = false) : Fails n e w (.failed (report a n e w) e)
  | retried {n e w v o d} (hn : n < p.maxRetries) (he : p.accepts e)
      (hd : d = e.retryAfter.getD (p.backoff.delay (n + 1)))
      (hv : v = if d.nanos = 0 then report a n e w else Ambient.pause d (report a n e w))
      (ho : Tries (n + 1) (a.listener.notify (.retryAttempt a.methodKey (n + 1) e) v) o) : Fails n e w o

end

variable {p a}

theorem wait_eq (d : Duration) (w : W) : BasicPolicy.wait d w = if d.nanos = 0 then w else Ambient.pause d w := by
  rw [BasicPolicy.wait, Duration.isZero]
  exact ite_congr (propext beq_iff_eq) (fun _ => rfl) fun _ => rfl

/-- An attempt that is due, if what follows its failure is known. -/
theorem tries_of_due {n : Nat} (w : W) {ask : Failure → W → Outcome W} (hask : ∀ e v, Fails p a n e v (ask e v)) :
    Tries p a n w (match prime a.inner a.request w with
      | (w', .ok response) => .primed w' response ask
      | (w', .error e) => ask e w'
      | (w', .never) => .never w') := by
  rcases h : prime a.inner a.request w with ⟨w', e | response | _⟩
  · exact .broken h (hask e w')
  · exact .answered h hask
  · exact .stalled h

/-- The conversation with so many retries left, when a failure is put to the policy. -/
theorem converse_fails : ∀ (left n : Nat), n + left = p.maxRetries → ∀ e w,
    Fails p a n e w (converse a (p.converse left (n + 1)) [e] e n (report a n e w))
  | 0, n, hleft, e, w => .ended (.inl hleft)
  | left + 1, n, hleft, e, w => by
    have ih := converse_fails left (n + 1) (by omega)
    rw [BasicPolicy.converse, converse]
    cases he : p.accepts e with
    | false => exact .ended (.inr he)
    | true => exact .retried (by omega) he rfl (wait_eq _ _) (tries_of_due _ ih)

/-- A call under the basic policy. -/
theorem run_tries (w : W) : Tries p a 0 w (run a p.toPolicy w) :=
  tries_of_due w fun e v => converse_fails p.maxRetries 0 (Nat.zero_add _) e v

end Courier.Retry
