import Courier.Retry.Backoff
import Mathlib.Tactic.Ring

/-! Delays that double.

    An exponential delay doubles from retry to retry until it is cut by its cap or has doubled as often as
    a delay may (`doubles_until_cap`). Computed in words, seconds apart from what makes less than a second,
    it is the same: no word overflows on the way, whatever the durations and however late the retry. -/

namespace Courier

/-! ### Durations in words -/

/-- The nanoseconds of a second, as a word. -/
def secondNanos : UInt64 := 1000000000

/-- The product of two words, if it is one. -/
def product? (a b : UInt64) : Option UInt64 := if a.toNat * b.toNat < 2 ^ 64 then some (a * b) else none

/-- The sum of two words, if it is one. -/
def sum? (a b : UInt64) : Option UInt64 := if a.toNat + b.toNat < 2 ^ 64 then some (a + b) else none

/-- The half word with one bit at a place, if it has such a place. -/
def bit? (place : UInt32) : Option UInt32 := if place < 32 then some (1 <<< place) else none

/-- A product and a sum in words are exact, or their result is too great for a word. -/
theorem product_sum_cases (a b c : UInt64) :
    (∃ s, ((product? a b).bind fun p => sum? p c) = some s ∧ s.toNat = a.toNat * b.toNat + c.toNat) ∨
      (((product? a b).bind fun p => sum? p c) = none ∧ 2 ^ 64 ≤ a.toNat * b.toNat + c.toNat) := by
  by_cases hp : a.toNat * b.toNat < 2 ^ 64
  · have hproduct : (a * b).toNat = a.toNat * b.toNat := by rw [UInt64.toNat_mul, Nat.mod_eq_of_lt hp]
    rw [product?, if_pos hp, Option.bind_some, sum?, hproduct]
    split
    · next hs => exact .inl ⟨_, rfl, by rw [UInt64.toNat_add, hproduct, Nat.mod_eq_of_lt hs]⟩
    · next hs => exact .inr ⟨rfl, Nat.le_of_not_lt hs⟩
  · rw [product?, if_neg hp]
    exact .inr ⟨rfl, by omega⟩

theorem tenTo_nine : tenTo 9 = 1000000000 := rfl

theorem maxNanos_eq : maxNanos = 2 ^ 64 * 1000000000 - 1 := rfl

namespace Duration

/-- A duration in words: whole seconds, and the nanoseconds of less than a second. -/
structure Words where
  seconds : UInt64
  part : UInt32
  part_lt : part.toNat < tenTo 9
deriving DecidableEq

/-- A duration in words. -/
def toWords (d : Duration) : Words where
  seconds := UInt64.ofNat (d.nanos / tenTo 9)
  part := UInt32.ofNat (d.nanos % tenTo 9)
  part_lt := by
    rw [UInt32.toNat_ofNat']
    exact Nat.lt_of_le_of_lt (Nat.mod_le _ _) (Nat.mod_lt _ (by decide))

theorem nanos_times (d : Duration) (n : Nat) : (d.times n).nanos = min (d.nanos * n) maxNanos := rfl

theorem nanos_max : Duration.max.nanos = maxNanos := Nat.min_self _

theorem nanos_least (a b : Duration) : (a.least b).nanos = min a.nanos b.nanos := by
  rw [least]
  split
  · next h => exact (Nat.min_eq_left h).symm
  · next h => exact (Nat.min_eq_right (Nat.le_of_not_le h)).symm

namespace Words

/-- All nanoseconds. -/
def nanos (d : Words) : Nat := d.seconds.toNat * tenTo 9 + d.part.toNat

/-- So many seconds, and what is left of some nanoseconds when the seconds among them are taken away. -/
def leftOver (seconds total : UInt64) : Words where
  seconds := seconds
  part := (total % secondNanos).toUInt32
  part_lt := by
    rw [UInt64.toNat_toUInt32, UInt64.toNat_mod]
    exact Nat.lt_of_le_of_lt (Nat.mod_le _ _) (Nat.mod_lt _ (by decide))

/-- The duration so many times. There is none if the product of the lower words overflows; if that of the
    seconds does, it is the greatest duration. -/
def times? (d : Words) (n : UInt32) : Option Words :=
  (product? d.part.toUInt64 n.toUInt64).map fun total =>
    match (product? d.seconds n.toUInt64).bind fun seconds => sum? seconds (total / secondNanos) with
    | some seconds => leftOver seconds total
    | none => Duration.max.toWords

/-- The shorter of two, by seconds first. -/
def least (a b : Words) : Words :=
  if a.seconds < b.seconds ∨ (a.seconds = b.seconds ∧ a.part ≤ b.part) then a else b

/-- How often a delay has doubled before a retry, in words. -/
def doublings (retry : UInt64) : UInt64 :=
  let before := if retry = 0 then 0 else retry - 1
  if before ≤ 31 then before else 31

/-- A delay that doubles, in words; there is none if a word overflows. -/
def delay? (initial max : Words) (retry : UInt64) : Option Words := do
  let factor ← bit? (doublings retry).toUInt32
  let delay ← initial.times? factor
  return delay.least max

theorem nanos_le (d : Words) : d.nanos ≤ maxNanos := by
  have hseconds := d.seconds.toNat_lt
  have hpart := d.part_lt
  rw [tenTo_nine] at hpart
  rw [nanos, tenTo_nine, maxNanos_eq]
  omega

theorem nanos_toWords (d : Duration) : d.toWords.nanos = d.nanos := by
  have hle := d.le_max
  rw [maxNanos_eq] at hle
  have hseconds : d.toWords.seconds.toNat = d.nanos / tenTo 9 := by
    rw [toWords, UInt64.toNat_ofNat', Nat.mod_eq_of_lt]
    rw [tenTo_nine]
    omega
  have hpart : d.toWords.part.toNat = d.nanos % tenTo 9 := by
    rw [toWords, UInt32.toNat_ofNat', Nat.mod_eq_of_lt]
    rw [tenTo_nine]
    omega
  rw [nanos, hseconds, hpart, Nat.div_add_mod']

/-- Durations of as many nanoseconds are the same words. -/
theorem eq_toWords {w : Words} {d : Duration} (h : w.nanos = d.nanos) : w = d.toWords := by
  rw [← nanos_toWords, nanos, nanos, tenTo_nine] at h
  have hw := w.part_lt
  have hd := d.toWords.part_lt
  rw [tenTo_nine] at hw hd
  have hseconds : w.seconds = d.toWords.seconds := UInt64.toNat_inj.mp (by omega)
  have hpart : w.part = d.toWords.part := UInt32.toNat_inj.mp (by omega)
  obtain ⟨seconds, part, hlt⟩ := w
  cases hseconds
  cases hpart
  rfl

theorem nanos_leftOver (seconds total : UInt64) :
    (leftOver seconds total).nanos = seconds.toNat * tenTo 9 + total.toNat % tenTo 9 := by
  have hleft : (total % secondNanos).toUInt32.toNat = total.toNat % tenTo 9 := by
    rw [UInt64.toNat_toUInt32, UInt64.toNat_mod, Nat.mod_eq_of_lt]
    · rfl
    · exact Nat.lt_trans (Nat.mod_lt _ (by decide)) (by decide)
  rw [nanos, leftOver, hleft]

/-- The lower words never overflow. -/
theorem product?_part (d : Words) (n : UInt32) :
    ∃ total, product? d.part.toUInt64 n.toUInt64 = some total ∧ total.toNat = d.part.toNat * n.toNat := by
  have hpart := d.part_lt
  have hn := n.toNat_lt
  rw [tenTo_nine] at hpart
  have hlt : d.part.toUInt64.toNat * n.toUInt64.toNat < 2 ^ 64 := by
    rw [UInt32.toNat_toUInt64, UInt32.toNat_toUInt64]
    calc d.part.toNat * n.toNat ≤ 1000000000 * 2 ^ 32 := Nat.mul_le_mul (by omega) (by omega)
      _ < 2 ^ 64 := by decide
  exact ⟨_, if_pos hlt, by
    rw [UInt64.toNat_mul, Nat.mod_eq_of_lt hlt, UInt32.toNat_toUInt64, UInt32.toNat_toUInt64]⟩

/-- The seconds overflow where the greatest duration is exceeded. -/
theorem times?_toWords (d : Duration) (n : UInt32) : d.toWords.times? n = some (d.times n.toNat).toWords := by
  obtain ⟨total, hproduct, htotal⟩ := d.toWords.product?_part n
  rw [times?, hproduct, Option.map_some]
  refine congrArg some (eq_toWords ?_)
  have hnanos : d.nanos * n.toNat = d.toWords.seconds.toNat * n.toNat * tenTo 9 + total.toNat := by
    rw [← nanos_toWords d, nanos, htotal]
    ring
  have hcarried : (total / secondNanos).toNat = total.toNat / tenTo 9 := UInt64.toNat_div _ _
  have hcases := product_sum_cases d.toWords.seconds n.toUInt64 (total / secondNanos)
  rw [hcarried, UInt32.toNat_toUInt64] at hcases
  rw [nanos_times, hnanos]
  -- Whole seconds of the lower product go to the seconds; the exact sum fits a word or exceeds all durations.
  rcases hcases with ⟨s, hs, hexact⟩ | ⟨hs, hover⟩ <;> simp only [hs]
  · have hwhole : (leftOver s total).nanos = d.toWords.seconds.toNat * n.toNat * tenTo 9 + total.toNat := by
      rw [nanos_leftOver, hexact, Nat.add_mul, Nat.add_assoc, Nat.div_add_mod']
    rw [hwhole, Nat.min_eq_left (hwhole ▸ nanos_le _)]
  · rw [nanos_toWords, nanos_max]
    refine (Nat.min_eq_right ?_).symm
    rw [tenTo_nine] at hover ⊢
    rw [maxNanos_eq]
    omega

theorem least_toWords (a b : Duration) : a.toWords.least b.toWords = (a.least b).toWords := by
  have ha := a.toWords.part_lt
  have hb := b.toWords.part_lt
  rw [tenTo_nine] at ha hb
  have hiff : (a.toWords.seconds < b.toWords.seconds ∨
      a.toWords.seconds = b.toWords.seconds ∧ a.toWords.part ≤ b.toWords.part) ↔ a.nanos ≤ b.nanos := by
    rw [← nanos_toWords a, ← nanos_toWords b, nanos, nanos, tenTo_nine, UInt64.lt_iff_toNat_lt,
      ← UInt64.toNat_inj, UInt32.le_iff_toNat_le]
    omega
  rw [least, Duration.least]
  by_cases h : a.nanos ≤ b.nanos
  · rw [if_pos (hiff.mpr h), if_pos h]
  · rw [if_neg (mt hiff.mp h), if_neg h]

theorem toNat_doublings (retry : UInt64) :
    (doublings retry).toNat = min (retry.toNat - 1) Retry.maxDoublings := by
  have hbefore : (if retry = 0 then 0 else retry - 1).toNat = retry.toNat - 1 := by
    split
    · next h => rw [h]; rfl
    · next h =>
      have hpos : retry.toNat ≠ 0 := fun hzero => h (UInt64.toNat_inj.mp hzero)
      exact UInt64.toNat_sub_of_le _ _ (UInt64.le_iff_toNat_le.mpr (Nat.one_le_iff_ne_zero.mpr hpos))
  rw [doublings, Retry.maxDoublings]
  generalize (if retry = 0 then 0 else retry - 1) = before at hbefore
  simp only [UInt64.le_iff_toNat_le, ← hbefore]
  split
  · next h => exact (Nat.min_eq_left h).symm
  · next h => exact (Nat.min_eq_right (Nat.le_of_not_le h)).symm

theorem bit?_of_lt {place : UInt32} (h : place < 32) :
    ∃ bit, bit? place = some bit ∧ bit.toNat = 2 ^ place.toNat := by
  refine ⟨_, if_pos h, ?_⟩
  have hplace : place.toNat < 32 := UInt32.lt_iff_toNat_lt.mp h
  rw [UInt32.toNat_shiftLeft, Nat.mod_eq_of_lt hplace, Nat.shiftLeft_eq, UInt32.toNat_one, Nat.one_mul]
  exact Nat.mod_eq_of_lt (Nat.pow_lt_pow_right (by decide) hplace)

/-- No word overflows on the way to a delay. -/
theorem delay?_toWords (initial max : Duration) (retry : UInt64) : delay? initial.toWords max.toWords retry
    = some ((Retry.Backoff.exponential initial max).delay retry.toNat).toWords := by
  have hplace : (doublings retry).toUInt32.toNat = min (retry.toNat - 1) Retry.maxDoublings := by
    rw [UInt64.toNat_toUInt32, toNat_doublings, Retry.maxDoublings]
    omega
  have hlt : (doublings retry).toUInt32 < 32 := by
    rw [UInt32.lt_iff_toNat_lt, hplace, Retry.maxDoublings]
    exact Nat.lt_of_le_of_lt (Nat.min_le_right _ _) (by decide)
  obtain ⟨factor, hfactor, hpower⟩ := bit?_of_lt hlt
  rw [delay?, hfactor]
  simp only [bind, Option.bind, times?_toWords, least_toWords, hpower, hplace, pure]
  rfl

end Words
end Duration

/-! ### Doubling -/

namespace Retry.Backoff

variable (initial max : Duration)

/-- The cap makes no difference to whether the greatest duration is exceeded. -/
theorem nanos_delay (retry : Nat) : ((exponential initial max).delay (retry + 1)).nanos
    = min (initial.nanos * 2 ^ min retry maxDoublings) max.nanos := by
  have hmax := max.le_max
  rw [delay, Duration.nanos_least, Duration.nanos_times, Nat.add_sub_cancel, Nat.min_assoc, Nat.min_eq_right hmax]
  rfl

/-- As long as a delay may double, it does. -/
theorem nanos_delay_succ (retry : Nat) : ((exponential initial max).delay (retry + 2)).nanos
    = min ((if retry < maxDoublings then 2 else 1) * ((exponential initial max).delay (retry + 1)).nanos) max.nanos := by
  rw [nanos_delay, nanos_delay]
  split
  · next h =>
    rw [Nat.min_eq_left (show retry + 1 ≤ maxDoublings from h), Nat.min_eq_left (Nat.le_of_lt h), Nat.pow_succ,
      ← Nat.mul_assoc]
    omega
  · next h =>
    have hle : maxDoublings ≤ retry := Nat.le_of_not_lt h
    rw [Nat.min_eq_right (Nat.le_succ_of_le hle), Nat.min_eq_right hle, Nat.one_mul, Nat.min_assoc, Nat.min_self]

theorem nanos_delay_le (retry : Nat) : ((exponential initial max).delay retry).nanos ≤ max.nanos := by
  rw [delay, Duration.nanos_least]
  exact Nat.min_le_right _ _

theorem nanos_delay_mono : Monotone fun retry => ((exponential initial max).delay retry).nanos := by
  refine monotone_nat_of_le_succ fun retry => ?_
  cases retry with
  | zero => exact Nat.le_refl _
  | succ retry =>
    rw [nanos_delay_succ]
    refine Nat.le_min.mpr ⟨Nat.le_mul_of_pos_left _ ?_, nanos_delay_le initial max _⟩
    split <;> decide

/-- Doubling at most so often is seen only behind the last doubling, and only if there is something to
    double and the cap lies higher. -/
theorem nanos_delay_unbounded (retry : Nat) : ((exponential initial max).delay (retry + 1)).nanos
      = min (initial.nanos * 2 ^ retry) max.nanos ↔
    retry ≤ maxDoublings ∨ initial.nanos = 0 ∨ max.nanos ≤ initial.nanos * 2 ^ maxDoublings := by
  rw [nanos_delay]
  rcases le_or_gt retry maxDoublings with hle | hlt
  · rw [Nat.min_eq_left hle]
    exact iff_of_true rfl (.inl hle)
  · rw [Nat.min_eq_right (Nat.le_of_lt hlt)]
    have hgrows : initial.nanos * 2 ^ maxDoublings ≤ initial.nanos * 2 ^ retry :=
      Nat.mul_le_mul_left _ (Nat.pow_le_pow_right (by decide) (Nat.le_of_lt hlt))
    rcases Nat.eq_zero_or_pos initial.nanos with hzero | hpos
    · rw [hzero, Nat.zero_mul, Nat.zero_mul]
      exact iff_of_true rfl (.inr (.inl rfl))
    · have hmore : initial.nanos * 2 ^ maxDoublings < initial.nanos * 2 ^ retry :=
        Nat.mul_lt_mul_of_pos_left (Nat.pow_lt_pow_right (by decide) hlt) hpos
      omega

/-- For all durations and retries: an exponential delay is the first one, doubled for every retry behind the
    first as often as a delay may double, and cut by its cap; where that is less than doubling without end
    would give is said exactly. From one retry to the next it doubles as long as it may, up to the cap, and
    stays the same then; it never decreases and never exceeds the cap. Computed in words it is the same,
    and no word overflows on the way. -/
theorem doubles_until_cap :
    let delay := (exponential initial max).delay
    (∀ retry, (delay (retry + 1)).nanos = min (initial.nanos * 2 ^ min retry maxDoublings) max.nanos) ∧
    (∀ retry, (delay (retry + 1)).nanos = min (initial.nanos * 2 ^ retry) max.nanos ↔
      retry ≤ maxDoublings ∨ initial.nanos = 0 ∨ max.nanos ≤ initial.nanos * 2 ^ maxDoublings) ∧
    (∀ retry, (delay (retry + 2)).nanos
      = min ((if retry < maxDoublings then 2 else 1) * (delay (retry + 1)).nanos) max.nanos) ∧
    (Monotone fun retry => (delay retry).nanos) ∧ (∀ retry, (delay retry).nanos ≤ max.nanos) ∧
    ∀ retry, initial.toWords.delay? max.toWords retry = some (delay retry.toNat).toWords :=
  ⟨nanos_delay initial max, nanos_delay_unbounded initial max, nanos_delay_succ initial max,
    nanos_delay_mono initial max, nanos_delay_le initial max, Duration.Words.delay?_toWords initial max⟩

/-- Without a cap, a delay of a millisecond has grown to 24 days before the 32nd retry and is as long before
    the 33rd: it is not doubled again. -/
theorem delay_of_lastDoubling :
    ((exponential (.ofMillis 1) .max).delay 32).nanos = 2 ^ 31 * 10 ^ 6 ∧
    ((exponential (.ofMillis 1) .max).delay 33).nanos ≠ min ((Duration.ofMillis 1).nanos * 2 ^ 32) Duration.max.nanos ∧
    ((exponential (.ofMillis 1) .max).delay 33).nanos
      ≠ min (2 * ((exponential (.ofMillis 1) .max).delay 32).nanos) Duration.max.nanos := by
  decide

end Retry.Backoff
end Courier
