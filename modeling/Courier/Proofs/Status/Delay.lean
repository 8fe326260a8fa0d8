import Courier.Proofs.Http.Date
import Courier.Proofs.Retry.Pauses
import Courier.Status.Failure
import Mathlib.Data.List.TakeWhile

/-! Delays that servers ask for.

    A server asks for a delay in seconds or for one until a date. For 429 and 503 the standard failure keeps
    it, and the basic policy waits for so long before the next attempt (`delay_respected`). Seconds may have
    a plus sign, which the grammar of the field does not have. -/

namespace Courier.Status

/-! ### Words -/

/-- The number of 64 bits that all of the text denotes. -/
def digitsOf (ds : List Char) : Option Nat :=
  if ds.isEmpty then none
  else match Http.Date.number? ds with
    | some n => if n < twoTo 64 then some n else none
    | none => none

theorem digitsOf_eq_some_iff {ds : List Char} {n : Nat} :
    digitsOf ds = some n ↔ n < 2 ^ 64 ∧ Http.IsNumeral ds n := by
  rw [digitsOf, Http.IsNumeral, ← Http.Date.number?_eq_some_iff]
  cases ds with
  | nil => simp
  | cons c ds =>
    cases Http.Date.number? (c :: ds) with
    | none => simp
    | some m =>
      simp only [List.isEmpty_cons, Bool.false_eq_true, ↓reduceIte, Option.ite_none_right_eq_some,
        Option.some.injEq, ne_eq, reduceCtorEq, not_false_eq_true, true_and]
      constructor
      · rintro ⟨hm, rfl⟩
        exact ⟨hm, rfl⟩
      · rintro ⟨hm, rfl⟩
        exact ⟨hm, rfl⟩

theorem wordOf_plus (ds : List Char) : wordOf ('+' :: ds) = digitsOf ds := rfl

theorem wordOf_of_ne {cs : List Char} (h : ∀ ds, cs ≠ '+' :: ds) : wordOf cs = digitsOf cs := by
  rw [wordOf.eq_def]
  split
  · exact absurd rfl (h _)
  · rfl

theorem not_isNumeral_plus (ds : List Char) (n : Nat) : ¬ Http.IsNumeral ('+' :: ds) n := by
  rintro ⟨-, hall, -⟩
  exact absurd (hall '+' (.head _)) (by decide)

/-- A number of 64 bits is read from its digits, and also behind a plus sign. -/
theorem wordOf_eq_some_iff {cs : List Char} {n : Nat} : wordOf cs = some n ↔
    n < 2 ^ 64 ∧ (Http.IsNumeral cs n ∨ ∃ ds, cs = '+' :: ds ∧ Http.IsNumeral ds n) := by
  by_cases hplus : ∃ ds, cs = '+' :: ds
  · obtain ⟨ds, rfl⟩ := hplus
    rw [wordOf_plus, digitsOf_eq_some_iff]
    simp [not_isNumeral_plus]
  · rw [wordOf_of_ne (not_exists.mp hplus), digitsOf_eq_some_iff]
    have hnone : ¬ ∃ ds, cs = '+' :: ds ∧ Http.IsNumeral ds n := fun ⟨ds, hds, _⟩ => hplus ⟨ds, hds⟩
    rw [or_iff_left hnone]

/-! ### Header fields -/

/-- The first value of the field is this text, but for blanks around it. -/
def Says (headers : Http.Headers) (cs : List Char) : Prop :=
  ∃ value text front back, Http.Headers.get? retryAfterName headers = some value ∧ value.text? = some text ∧
    text.toList = front ++ cs ++ back ∧ (∀ c ∈ front ++ back, c ∈ [' ', '\t']) ∧
    (∀ c ∈ cs.head?, c ∉ [' ', '\t']) ∧ ∀ c ∈ cs.getLast?, c ∉ [' ', '\t']

theorem isValueBlank_iff (c : Char) : Codec.isValueBlank c = true ↔ c ∈ [' ', '\t'] := by
  simp [Codec.isValueBlank]

/-- Blanks in front of something else are left out. -/
theorem dropWhile_blanks {front cs : List Char} (hfront : ∀ c ∈ front, c ∈ [' ', '\t'])
    (hcs : ∀ c ∈ cs.head?, c ∉ [' ', '\t']) : (front ++ cs).dropWhile Codec.isValueBlank = cs := by
  rw [List.dropWhile_append_of_pos fun c hc => (isValueBlank_iff c).mpr (hfront c hc)]
  cases cs with
  | nil => rfl
  | cons c cs => exact List.dropWhile_cons_of_neg fun hc => hcs c rfl ((isValueBlank_iff c).mp hc)

theorem trimmed_eq {front cs back : List Char} (hblank : ∀ c ∈ front ++ back, c ∈ [' ', '\t'])
    (hhead : ∀ c ∈ cs.head?, c ∉ [' ', '\t']) (hlast : ∀ c ∈ cs.getLast?, c ∉ [' ', '\t']) :
    Codec.trimmed (front ++ cs ++ back) = cs := by
  obtain ⟨hfront, hback⟩ := List.forall_mem_append.mp hblank
  cases cs with
  | nil =>
    have hall : (front ++ [] ++ back).dropWhile Codec.isValueBlank = [] := by
      rw [List.append_nil, List.dropWhile_eq_nil_iff]
      exact fun c hc => (isValueBlank_iff c).mpr (hblank c hc)
    rw [Codec.trimmed, hall]
    rfl
  | cons c cs =>
    have hstart : (front ++ (c :: cs ++ back)).dropWhile Codec.isValueBlank = c :: cs ++ back :=
      dropWhile_blanks hfront hhead
    have hend : (back.reverse ++ (c :: cs).reverse).dropWhile Codec.isValueBlank = (c :: cs).reverse :=
      dropWhile_blanks (fun c hc => hback c (List.mem_reverse.mp hc)) (by rwa [List.head?_reverse])
    rw [Codec.trimmed, List.append_assoc, hstart, List.reverse_append, hend, List.reverse_reverse]

theorem not_blank_of_dropWhile (cs : List Char) :
    ∀ c ∈ (cs.dropWhile Codec.isValueBlank).head?, c ∉ [' ', '\t'] := by
  intro c hc hblank
  have hnot := List.head?_dropWhile_not Codec.isValueBlank cs
  rw [Option.mem_def.mp hc] at hnot
  exact absurd ((isValueBlank_iff c).mpr hblank) (Bool.eq_false_iff.mp hnot)

/-- A value that is a text says it, without the blanks around it. -/
theorem says_trimmed {headers : Http.Headers} {value : Http.HeaderValue} {text : String}
    (hvalue : Http.Headers.get? retryAfterName headers = some value) (htext : value.text? = some text) :
    Says headers (Codec.trimmed text.toList) := by
  let opened := text.toList.dropWhile Codec.isValueBlank
  let front := text.toList.takeWhile Codec.isValueBlank
  let back := (opened.reverse.takeWhile Codec.isValueBlank).reverse
  have hopened : opened = Codec.trimmed text.toList ++ back := by
    rw [Codec.trimmed, ← List.reverse_append, List.takeWhile_append_dropWhile, List.reverse_reverse]
  refine ⟨value, text, front, back, hvalue, htext, ?_, ?_, ?_, ?_⟩
  · rw [List.append_assoc, ← hopened, List.takeWhile_append_dropWhile]
  · intro c hc
    rcases List.mem_append.mp hc with hmem | hmem
    · exact (isValueBlank_iff c).mp (List.mem_takeWhile_imp hmem)
    · exact (isValueBlank_iff c).mp (List.mem_takeWhile_imp (List.mem_reverse.mp hmem))
  · intro c hc
    refine not_blank_of_dropWhile text.toList c ?_
    show c ∈ opened.head?
    rw [hopened, List.head?_append, Option.mem_def.mp hc]
    rfl
  · intro c hc
    rw [Codec.trimmed, List.getLast?_reverse] at hc
    exact not_blank_of_dropWhile _ c hc

/-- What is read of a text. -/
theorem parseRetryAfter_of_text {headers : Http.Headers} {cs : List Char} (h : Says headers cs) (now : Nat) :
    parseRetryAfter headers now = match wordOf cs with
      | some n => some (.ofSeconds n)
      | none => (Http.Date.ofText? (String.ofList cs)).map (untilDate now) := by
  obtain ⟨value, text, front, back, hvalue, htext, hcs, hblank, hhead, hlast⟩ := h
  have htrimmed := trimmed_eq hblank hhead hlast
  rw [← hcs] at htrimmed
  simp only [parseRetryAfter, hvalue, htext, htrimmed, Option.bind_eq_bind, Option.bind_some]
  cases wordOf cs with
  | some n => rfl
  | none => exact Option.map_eq_bind.symm

/-! ### Delays -/

/-- The text asks for this delay: its digits are the seconds, or it is the date at the end of it. A date
    that is past asks for none. -/
inductive Asks (now : Nat) (cs : List Char) (d : Duration) : Prop where
  | seconds {n} (h : Http.IsNumeral cs n) (hn : n < 2 ^ 64) (hd : d.nanos = n * 10 ^ 9)
  | date {date} (h : Http.Date.ofText? (String.ofList cs) = some date) (hd : d.nanos = date.seconds * 10 ^ 9 - now)

theorem nanos_ofSeconds {n : Nat} (h : n < 2 ^ 64) : (Duration.ofSeconds n).nanos = n * 10 ^ 9 := by
  have hle : n * tenTo 9 ≤ maxNanos := by
    rw [maxNanos]
    simp only [Nat.pow_eq]
    omega
  exact Nat.min_eq_left hle

theorem nanos_untilDate {s : String} {date : Http.Date} (h : Http.Date.ofText? s = some date) (now : Nat) :
    (untilDate now date).nanos = date.seconds * 10 ^ 9 - now := by
  have hseconds := Http.Date.seconds_lt (Http.Date.isReal_of_ofText h)
  have hle : date.seconds * tenTo 9 - now ≤ maxNanos := by
    rw [maxNanos]
    simp only [Nat.pow_eq]
    omega
  exact Nat.min_eq_left hle

theorem eq_of_nanos {d d' : Duration} (h : d.nanos = d'.nanos) : d = d' := by
  cases d
  cases d'
  cases h
  rfl

/-- The delay that header fields ask for. There is none if they say nothing, or nothing of this kind. Digits
    may have a plus sign, whatever the grammar says. -/
theorem parseRetryAfter_eq_some_iff (headers : Http.Headers) (now : Nat) (d : Duration) :
    parseRetryAfter headers now = some d ↔ ∃ cs, Says headers cs ∧
      (Asks now cs d ∨ ∃ ds n, cs = '+' :: ds ∧ Http.IsNumeral ds n ∧ n < 2 ^ 64 ∧ d.nanos = n * 10 ^ 9) := by
  constructor
  · intro h
    obtain ⟨value, hvalue, hd⟩ := Option.bind_eq_some_iff.mp h
    obtain ⟨text, htext, -⟩ := Option.bind_eq_some_iff.mp hd
    have htold := says_trimmed hvalue htext
    refine ⟨_, htold, ?_⟩
    rw [parseRetryAfter_of_text htold] at h
    cases hword : wordOf (Codec.trimmed text.toList) with
    | some n =>
      rw [hword] at h
      cases h
      obtain ⟨hn, hnumeral | ⟨ds, hplus, hnumeral⟩⟩ := wordOf_eq_some_iff.mp hword
      · exact .inl (.seconds hnumeral hn (nanos_ofSeconds hn))
      · exact .inr ⟨ds, n, hplus, hnumeral, hn, nanos_ofSeconds hn⟩
    | none =>
      rw [hword] at h
      obtain ⟨date, hdate, rfl⟩ := Option.map_eq_some_iff.mp h
      exact .inl (.date hdate (nanos_untilDate hdate now))
  · have hnumber : ∀ {cs n}, wordOf cs = some n → n < 2 ^ 64 → d.nanos = n * 10 ^ 9 → Says headers cs →
        parseRetryAfter headers now = some d := by
      intro cs n hword hn hd htold
      rw [parseRetryAfter_of_text htold, hword]
      exact congrArg some (eq_of_nanos ((nanos_ofSeconds hn).trans hd.symm))
    rintro ⟨cs, htold, (⟨hnumeral, hn, hd⟩ | ⟨hdate, hd⟩) | ⟨ds, n, hplus, hnumeral, hn, hd⟩⟩
    · exact hnumber (wordOf_eq_some_iff.mpr ⟨hn, .inl hnumeral⟩) hn hd htold
    · -- a date begins with a letter, so it is not read as a number before
      have hword : wordOf cs = none := by
        refine Option.eq_none_iff_forall_ne_some.mpr fun n hword => ?_
        obtain ⟨-, hnumeral | ⟨ds, rfl, -⟩⟩ := wordOf_eq_some_iff.mp hword
        · exact Http.Date.not_isNumeral_of_ofText hdate n hnumeral
        · exact absurd (Http.Date.initial_of_ofText hdate) Bool.false_ne_true
      rw [parseRetryAfter_of_text htold, hword]
      simp only [hdate, Option.map_some]
      exact congrArg some (eq_of_nanos ((nanos_untilDate hdate now).trans hd.symm))
    · exact hnumber (wordOf_eq_some_iff.mpr ⟨hn, .inr ⟨ds, hplus, hnumeral⟩⟩) hn hd htold

open Retry in
/-- A server asks for a delay if the first value of the field, but for blanks around it, is the seconds in
    decimal digits, less than `2^64`, or a date; the delay is then so many seconds, or the time until the
    date, none if that is past. Nothing else is taken for a delay, but that digits may have a plus sign. The
    standard failure keeps the delay if the status is 429 or 503, and only then. Under the basic policy the
    next attempt is made when the policy has paused for exactly the delay that the failure keeps, or, if it
    keeps none, for that of the backoff. -/
theorem delay_respected {W : Type} [Ambient W] :
    (∀ headers now d, parseRetryAfter headers now = some d ↔ ∃ cs, Says headers cs ∧
      (Asks now cs d ∨ ∃ ds n, cs = '+' :: ds ∧ Http.IsNumeral ds n ∧ n < 2 ^ 64 ∧ d.nanos = n * 10 ^ 9)) ∧
    (∀ key status headers body now, (standardFailure key status headers body now).retryAfter
      = if status = 429 ∨ status = 503 then parseRetryAfter headers now else none) ∧
    ∀ (p : BasicPolicy) (a : Attempts W) w, Tries p a 0 w (run a p.toPolicy w) := by
  refine ⟨parseRetryAfter_eq_some_iff, fun key status headers body now => ?_, fun p a w => run_tries w⟩
  rw [standardFailure, Failure.retryAfter, keepsDelay]
  exact ite_congr (propext (by simp)) (fun _ => rfl) fun _ => rfl

/-- Seven seconds, with blanks and with a plus sign. -/
example :
    let asked (value : String) : Http.Headers := [(retryAfterName, [⟨Text.bytes value, false⟩])]
    (["7", " 7 ", "+7", "-7", "++7", "7.5", "18446744073709551616", "soon",
      "Sun, 06 Nov 1994 08:49:37 GMT"].map fun v => (parseRetryAfter (asked v) (784111770 * 10 ^ 9)).map (·.nanos))
    = [some (7 * 10 ^ 9), some (7 * 10 ^ 9), some (7 * 10 ^ 9), none, none, none, none, none, some (7 * 10 ^ 9)] := by
  decide +kernel

end Courier.Status
