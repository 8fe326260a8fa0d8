import Mathlib.Data.List.Basic
import Courier.Retry.Policy

/-! What the basic policy answers, and when.

    A session that is fed a list of failures answers one after the other. The basic policy allows another
    attempt for each failure up to the first one that it does not accept or has no retry left for; this one
    it gives back, and closes. It waits for the delays of the failures that it allows, and for nothing else
    (`answers_on_time`). -/

namespace Courier.Retry

variable {W : Type}

/-! ### Sessions that are fed -/

/-- The answers of a session, each with the surroundings in which it is given, and the failures that are
    never taken. -/
structure Course (W : Type) where
  answers : List (W × Except Failure Unit)
  untaken : List Failure

/-- The course of a session that is fed a list of failures: it closes, or it has to wait for one more when
    there is none. -/
def Session.course : Session W → List Failure → W → Course W
  | .closed, es, _ => ⟨[], es⟩
  | .await _, [], _ => ⟨[], []⟩
  | .await next, e :: es, w => (next e).course es w
  | .perform effect rest, es, w => (rest (effect w)).course es (effect w)
  | .answer verdict rest, es, w =>
    let later := rest.course es w
    ⟨(w, verdict) :: later.answers, later.untaken⟩

/-- The answers with the times at which they are given. -/
def Course.timed (clock : W → Nat) (c : Course W) : List (Nat × Except Failure Unit) :=
  c.answers.map fun a => (clock a.1, a.2)

namespace BasicPolicy

/-! ### What is expected of the policy -/

/-- Whether the failure at a place of the list, counted from zero, may be tried again. -/
def grants (p : BasicPolicy) (i : Nat) (e : Failure) : Bool := i < p.maxRetries && p.accepts e

/-- The place of the first failure that may not be tried again, if `n` came before these ones. -/
def refusal? (p : BasicPolicy) (n : Nat) (es : List Failure) : Option Nat :=
  (es.zipIdx n).findIdx? fun x => !p.grants x.2 x.1

/-- The delays of the failures in nanoseconds, if `n` came before them: the one that the server asked for,
    else that of the backoff for a retry of this number, counted from one. -/
def delays (p : BasicPolicy) (n : Nat) (es : List Failure) : List Nat :=
  (es.zipIdx n).map fun x => (x.1.retryAfter.getD (p.backoff.delay (x.2 + 1))).nanos

/-- The time when so many of the delays have passed. -/
def passed (p : BasicPolicy) (start n : Nat) (es : List Failure) (i : Nat) : Nat :=
  ((p.delays n es).take i).foldl (· + ·) start

/-- So many failures may be tried again, each when its delay has passed. -/
def permits (p : BasicPolicy) (start n : Nat) (es : List Failure) (j : Nat) : List (Nat × Except Failure Unit) :=
  (List.range j).map fun i => (p.passed start n es (i + 1), .ok ())

/-- All failures in front of the first one that may not be tried again are permitted, each when its delay
    has passed; that one is given back at once, and those behind it are not taken. -/
def OnTime (p : BasicPolicy) (start n : Nat) (es : List Failure) (timed : List (Nat × Except Failure Unit))
    (untaken : List Failure) : Prop :=
  match p.refusal? n es with
  | none => timed = p.permits start n es es.length ∧ untaken = []
  | some j => ∃ e, es[j]? = some e ∧ timed = p.permits start n es j ++ [(p.passed start n es j, .error e)] ∧
    untaken = es.drop (j + 1)

/-! ### Answers on time -/

variable (p : BasicPolicy)

theorem passed_zero (start n : Nat) (es : List Failure) : p.passed start n es 0 = start := rfl

theorem passed_succ (start n : Nat) (e : Failure) (es : List Failure) (i : Nat) :
    p.passed start n (e :: es) (i + 1) = p.passed (start + (p.delay e (n + 1)).nanos) (n + 1) es i := by
  simp only [passed, delays, delay, List.zipIdx_cons, List.map_cons, List.take_succ_cons, List.foldl_cons]

theorem permits_succ (start n : Nat) (e : Failure) (es : List Failure) (j : Nat) :
    p.permits start n (e :: es) (j + 1) = (start + (p.delay e (n + 1)).nanos, .ok ())
      :: p.permits (start + (p.delay e (n + 1)).nanos) (n + 1) es j := by
  simp only [permits, List.range_succ_eq_map, List.map_cons, List.map_map, passed_succ, passed_zero,
    Function.comp_def]

theorem refusal?_cons (n : Nat) (e : Failure) (es : List Failure) : p.refusal? n (e :: es)
    = if p.grants n e then (p.refusal? (n + 1) es).map (· + 1) else some 0 := by
  simp only [refusal?, List.zipIdx_cons, List.findIdx?_cons]
  cases p.grants n e <;> rfl

/-- One failure that may be tried again, and the rest. -/
theorem OnTime.cons {start n : Nat} {e : Failure} {es : List Failure} {timed : List (Nat × Except Failure Unit)}
    {untaken : List Failure} (he : p.grants n e = true)
    (h : p.OnTime (start + (p.delay e (n + 1)).nanos) (n + 1) es timed untaken) :
    p.OnTime start n (e :: es) ((start + (p.delay e (n + 1)).nanos, .ok ()) :: timed) untaken := by
  simp only [OnTime, refusal?_cons, he, if_true] at h ⊢
  cases hrefusal : p.refusal? (n + 1) es with
  | none =>
    rw [hrefusal] at h
    obtain ⟨rfl, rfl⟩ := h
    exact ⟨(p.permits_succ start n e es es.length).symm, rfl⟩
  | some j =>
    rw [hrefusal] at h
    obtain ⟨e', he', rfl, rfl⟩ := h
    refine ⟨e', he', ?_, rfl⟩
    rw [permits_succ, passed_succ]
    rfl

/-- A failure that may not be tried again. -/
theorem OnTime.refused {start n : Nat} {e : Failure} (es : List Failure) (he : p.grants n e = false) :
    p.OnTime start n (e :: es) [(start, .error e)] es := by
  simp only [OnTime, refusal?_cons, he]
  exact ⟨e, rfl, rfl, rfl⟩

variable [Ambient W] (clock : W → Nat) (hclock : ∀ d w, clock (Ambient.pause d w) = clock w + d.nanos)

include hclock

theorem clock_wait (d : Duration) (w : W) : clock (wait d w) = clock w + d.nanos := by
  rw [wait]
  split
  · next hzero =>
    have hnanos : d.nanos = 0 := by simpa [Duration.isZero] using hzero
    rw [hnanos, Nat.add_zero]
  · exact hclock d w

/-- The conversation with so many retries left, after as many failures as retries have been used. -/
theorem converse_onTime : ∀ (es : List Failure) (left n : Nat) (w : W), n + left = p.maxRetries →
    p.OnTime (clock w) n es (((p.converse left (n + 1)).course es w).timed clock)
      ((p.converse left (n + 1)).course es w).untaken
  | [], 0, _, _, _ => ⟨rfl, rfl⟩
  | [], _ + 1, _, _, _ => ⟨rfl, rfl⟩
  | e :: es, 0, n, w, hleft => by
    have hspent : p.grants n e = false := by simp [grants, ← hleft]
    exact OnTime.refused p es hspent
  | e :: es, left + 1, n, w, hleft => by
    have hmore : n < p.maxRetries := by omega
    cases ha : p.accepts e with
    | false =>
      have hcourse : ((p.converse (left + 1) (n + 1)).course (e :: es) w : Course W) = ⟨[(w, .error e)], es⟩ := by
        simp only [converse, Session.course, ha]
        rfl
      rw [hcourse]
      exact OnTime.refused p es (by simp [grants, ha])
    | true =>
      have hcourse : ((p.converse (left + 1) (n + 1)).course (e :: es) w : Course W)
          = (Session.answer (.ok ()) (p.converse left (n + 1 + 1))).course es (wait (p.delay e (n + 1)) w) := by
        simp only [converse, Session.course, ha]
        rfl
      have ih := converse_onTime es left (n + 1) (wait (p.delay e (n + 1)) w) (by omega)
      rw [clock_wait clock hclock] at ih
      have hcons := OnTime.cons p (by simp [grants, ha, hmore]) ih
      rw [← clock_wait clock hclock] at hcons
      rw [hcourse]
      exact hcons

end BasicPolicy

/-- Surroundings with nothing but the time in nanoseconds. -/
structure Watch where
  nanos : Nat

instance : Ambient Watch where
  record _ _ _ w := w
  pause d w := ⟨w.nanos + d.nanos⟩
  elapsed w := .ofNanos w.nanos
  calendar w := w.nanos
  freshId w := (w, "")

/-- Two retries, the first after a second. -/
def patient : BasicPolicy := ⟨2, .exponential (.ofSeconds 1) (.ofSeconds 8), Failure.isTransient⟩

/-- The server is too busy for so many seconds. -/
def busy (seconds : Nat) : Failure := .status ⟨"m", 503, "Service Unavailable", none, some (.ofSeconds seconds)⟩

/-- Four failures: the delay that the second one asks for is longer than any of the policy's own, the third
    one is one too many. -/
def outages : List Failure := [.timeout .zero, busy 60, busy 0, .other "unseen"]

end Courier.Retry
