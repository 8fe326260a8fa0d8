import Courier.Json.Basic
import Courier.Proofs.Json.Numeral

/-! Numbers are spelled as numerals.

    A whole number's text spells this number (`whole_spelled`). The text of a double spells some numeral
    (`text_spelled`); whether that numeral's number is the same double is a matter of rounding. -/

namespace Courier

open Json.Numeral

/-! ### Digits of natural numbers -/

namespace Json.Numeral

/-- Digits without zeros in front, unless there is nothing else. -/
structure Leading (ds : List Nat) : Prop where
  digits : ∀ d ∈ ds, d < 10
  first : ds = [0] ∨ ∃ d ds', ds = d :: ds' ∧ d ≠ 0

theorem Leading.ne_nil {ds : List Nat} (h : Leading ds) : ds ≠ [] := by
  rcases h.first with rfl | ⟨d, ds', rfl, -⟩ <;> nofun

/-- The number of some digits behind a number. -/
def valueFrom (n : Nat) : List Nat → Nat
  | [] => n
  | d :: ds => valueFrom (n * 10 + d) ds

theorem valueFrom_concat (d : Nat) : ∀ (n : Nat) (ds : List Nat),
    valueFrom n (ds ++ [d]) = valueFrom n ds * 10 + d
  | _, [] => rfl
  | n, d' :: ds => valueFrom_concat d (n * 10 + d') ds

theorem toDigits_leading (n : Nat) :
    ∃ ds, Nat.toDigits 10 n = ds.map Nat.digitChar ∧ Leading ds ∧ valueFrom 0 ds = n := by
  rw [Nat.toDigits_eq_if (by decide)]
  split
  · next h =>
    refine ⟨[n], rfl, ⟨by simpa using h, ?_⟩, by simp [valueFrom]⟩
    cases n with
    | zero => exact .inl rfl
    | succ n => exact .inr ⟨n + 1, [], rfl, nofun⟩
  · next h =>
    obtain ⟨ds, htext, hds, hvalue⟩ := toDigits_leading (n / 10)
    refine ⟨ds ++ [n % 10], ?_, ⟨?_, ?_⟩, ?_⟩
    · rw [htext, List.map_append]
      rfl
    · intro d hd
      rcases List.mem_append.mp hd with hmem | hmem
      · exact hds.digits d hmem
      · rw [List.mem_singleton.mp hmem]
        omega
    · rcases hds.first with rfl | ⟨d, ds', rfl, hne⟩
      · simp only [valueFrom] at hvalue
        omega
      · exact .inr ⟨d, ds' ++ [n % 10], rfl, hne⟩
    · rw [valueFrom_concat, hvalue]
      omega
termination_by n
decreasing_by omega

theorem le_valueFrom (ds : List Nat) (n : Nat) : n ≤ valueFrom n ds := by
  induction ds generalizing n with
  | nil => exact Nat.le_refl n
  | cons d ds ih =>
    have hmore : n * 10 + d ≤ valueFrom (n * 10 + d) ds := ih _
    rw [valueFrom]
    omega

/-- Digits of a number of 64 bits are all gathered. -/
theorem gather_fits (ds : List Nat) (n : Nat) (h : valueFrom n ds ≤ wordMax) :
    gather n ds = (valueFrom n ds, 0) := by
  induction ds generalizing n with
  | nil => rfl
  | cons d ds ih =>
    have hle : n * 10 + d ≤ wordMax := Nat.le_trans (le_valueFrom ds (n * 10 + d)) h
    rw [gather, if_pos hle, ih (n * 10 + d) h]
    rfl

/-- A numeral of whole digits that fit is whole. -/
theorem number?_whole (negative : Bool) {ds : List Nat} {n : Nat} (hvalue : valueFrom 0 ds = n)
    (hn : n ≤ wordMax) : number? negative ds [] none = whole negative n := by
  have hfits : gather 0 ds = (n, 0) := by rw [gather_fits ds 0 (by rw [hvalue]; exact hn), hvalue]
  simp only [number?, hfits, List.isEmpty_nil, beq_self_eq_true, Bool.and_self, ↓reduceIte]

theorem whole_positive (n : Nat) : whole false n = Number.ofInt? (.ofNat n) := by
  rw [whole, Bool.not_false, if_pos rfl]
  rfl

theorem whole_negative {n : Nat} (hne : n ≠ 0) (hn : n ≤ twoTo 63) :
    whole true n = Number.ofInt? (-n) := by
  have hzero : (n == 0) = false := beq_false_of_ne hne
  have hlarge : decide (twoTo 63 < n) = false := decide_eq_false (Nat.not_lt.mpr hn)
  rw [whole, hzero, hlarge]
  rfl

end Json.Numeral

namespace Number

theorem ofInt?_word {n : Int} (h : IsWord n) : ofInt? n = some (.whole n h) := dif_pos h

/-- The text of a whole number spells this number. -/
theorem whole_spelled (n : Int) (h : IsWord n) : ∃ x : Spelling, x.Sound ∧
    (Number.whole n h).text.toList = x.chars ∧ x.number? = some (.whole n h) := by
  have h63 : twoTo 63 = 9223372036854775808 := rfl
  have h64 : twoTo 64 = 18446744073709551616 := rfl
  have hbounds : -9223372036854775808 ≤ n ∧ n < 18446744073709551616 := by
    rw [IsWord, h63, h64] at h
    exact h
  have hmax : wordMax = 18446744073709551615 := rfl
  cases n with
  | ofNat m =>
    obtain ⟨ds, htext, hds, hvalue⟩ := toDigits_leading m
    refine ⟨⟨false, ds, [], none⟩, ⟨hds.digits, hds.first, List.forall_mem_nil _, fun _ _ h => by cases h⟩, ?_, ?_⟩
    · have hchars : (Number.whole (.ofNat m) h).text.toList = Nat.toDigits 10 m := Nat.toList_repr
      rw [hchars, htext]
      simp [Spelling.chars, Spelling.unsigned, Spelling.fractionChars, Spelling.exponentChars]
    · have hm : m ≤ wordMax := by rw [hmax]; simp at hbounds; omega
      exact (number?_whole false hvalue hm).trans ((whole_positive m).trans (ofInt?_word h))
  | negSucc m =>
    obtain ⟨ds, htext, hds, hvalue⟩ := toDigits_leading (m + 1)
    refine ⟨⟨true, ds, [], none⟩, ⟨hds.digits, hds.first, List.forall_mem_nil _, fun _ _ h => by cases h⟩, ?_, ?_⟩
    · have hchars : (Number.whole (.negSucc m) h).text.toList = '-' :: Nat.toDigits 10 (m + 1) := by
        have hsign : (Number.whole (.negSucc m) h).text = "-" ++ Nat.repr (m + 1) := rfl
        rw [hsign, String.toList_append, Nat.toList_repr]
        rfl
      rw [hchars, htext]
      simp [Spelling.chars, Spelling.unsigned, Spelling.fractionChars, Spelling.exponentChars]
    · have hm : m + 1 ≤ wordMax := by rw [hmax]; omega
      have hnegative := whole_negative (Nat.succ_ne_zero m) (by rw [h63]; omega)
      exact (number?_whole true hvalue hm).trans (hnegative.trans (ofInt?_word h))

end Number

/-! ### Doubles -/

namespace Binary64

/-- Digits of a decimal: no zero stands in front. -/
structure Decimal.Sound (d : Decimal) : Prop where
  digits : ∀ x ∈ d.digits, x < 10
  first : ∀ x xs, d.digits = x :: xs → x ≠ 0

theorem digitsRev_lt : ∀ (fuel n : Nat), ∀ x ∈ digitsRev fuel n, x < 10
  | 0, _, _, h => nomatch h
  | fuel + 1, n, x, h => by
    rw [digitsRev] at h
    split at h
    · cases h
    · rcases List.mem_cons.mp h with rfl | hmem
      · omega
      · exact digitsRev_lt fuel (n / 10) x hmem

/-- The last of the reversed digits is the first of the number, and no zero. -/
theorem digitsRev_last : ∀ (fuel n : Nat), n < fuel → ∀ xs x, digitsRev fuel n = xs ++ [x] → x ≠ 0
  | fuel + 1, n, hn, xs, x, h => by
    rw [digitsRev] at h
    split at h
    · exact absurd h.symm (by simp)
    · next hne =>
      have hpos : n ≠ 0 := by simpa using hne
      cases xs with
      | nil =>
        obtain ⟨rfl, hrest⟩ := List.cons.inj h
        intro hzero
        -- then the number is a multiple of ten, and more digits would follow
        have hmore : n / 10 ≠ 0 := by omega
        cases fuel with
        | zero => omega
        | succ fuel =>
          rw [digitsRev, if_neg (by simpa using hmore)] at hrest
          cases hrest
      | cons y ys =>
        obtain ⟨-, hrest⟩ := List.cons.inj h
        exact digitsRev_last fuel (n / 10) (by omega) ys x hrest

theorem shortest_sound (x : Binary64) : x.shortest.Sound := by
  have hnone : ∀ point, Decimal.Sound ⟨[], point⟩ := fun _ => ⟨nofun, nofun⟩
  rw [shortest]
  split
  · exact hnone 0
  · simp only
    split
    · next n step _ =>
      have hrev : ((digitsOf n).reverse.dropWhile (· == 0)) <:+ digitsRev (n + 1) n := by
        rw [digitsOf, List.reverse_reverse]
        exact List.dropWhile_suffix _
      refine ⟨fun d hd => ?_, fun d ds hds => ?_⟩
      · exact digitsRev_lt (n + 1) n d (hrev.subset (List.mem_reverse.mp hd))
      · obtain ⟨before, hbefore⟩ := hrev
        have hlast : (digitsOf n).reverse.dropWhile (· == 0) = ds.reverse ++ [d] := by
          rw [← List.reverse_cons, ← hds, List.reverse_reverse]
        rw [hlast, ← List.append_assoc] at hbefore
        exact digitsRev_last (n + 1) n (Nat.lt_succ_self n) _ d hbefore.symm
    · exact hnone 0

section layouts

variable (negative : Bool) {first : Nat} {rest : List Nat} (hfirst : first ≠ 0)
  (hlt : ∀ z ∈ first :: rest, z < 10)

include hfirst hlt

/-- Digits, and zeros up to the point. -/
theorem spelled_whole (k : Nat) : ∃ x : Spelling, x.negative = negative ∧ x.Sound ∧
    digitChars (first :: rest) ++ List.replicate k '0' ++ ['.', '0'] = x.unsigned := by
  have hdigits : ∀ z ∈ first :: rest ++ List.replicate k 0, z < 10 := by
    intro z hz
    rcases List.mem_append.mp hz with hmem | hmem
    · exact hlt z hmem
    · rw [List.eq_of_mem_replicate hmem]
      decide
  refine ⟨⟨negative, first :: rest ++ List.replicate k 0, [0], none⟩, rfl,
    ⟨hdigits, .inr ⟨first, _, rfl, hfirst⟩, by simp, nofun⟩, ?_⟩
  simp [Spelling.unsigned, Spelling.fractionChars, Spelling.exponentChars, digitChars, Nat.digitChar]

/-- A point between digits. -/
theorem spelled_inside {k : Nat} (hk : k < rest.length) : ∃ x : Spelling, x.negative = negative ∧ x.Sound ∧
    (digitChars (first :: rest)).take (k + 1) ++ '.' :: (digitChars (first :: rest)).drop (k + 1)
      = x.unsigned := by
  have hdrop : (rest.drop k).isEmpty = false := by
    rw [List.isEmpty_eq_false_iff]
    exact List.ne_nil_of_length_pos (by rw [List.length_drop]; omega)
  have htake : ∀ z ∈ first :: rest.take k, z < 10 := by
    intro z hz
    rcases List.mem_cons.mp hz with rfl | hmem
    · exact hlt z List.mem_cons_self
    · exact hlt z (.tail first (List.mem_of_mem_take hmem))
  refine ⟨⟨negative, first :: rest.take k, rest.drop k, none⟩, rfl,
    ⟨htake, .inr ⟨first, _, rfl, hfirst⟩, fun z hz => hlt z (.tail first (List.mem_of_mem_drop hz)), nofun⟩, ?_⟩
  simp [Spelling.unsigned, Spelling.fractionChars, Spelling.exponentChars, digitChars, hdrop, List.map_take,
    List.map_drop]

omit hfirst in
/-- A zero, the point, and zeros in front of the digits. -/
theorem spelled_small (k : Nat) : ∃ x : Spelling, x.negative = negative ∧ x.Sound ∧
    '0' :: '.' :: List.replicate k '0' ++ digitChars (first :: rest) = x.unsigned := by
  have hdigits : ∀ z ∈ List.replicate k 0 ++ first :: rest, z < 10 := by
    intro z hz
    rcases List.mem_append.mp hz with hmem | hmem
    · rw [List.eq_of_mem_replicate hmem]
      decide
    · exact hlt z hmem
  refine ⟨⟨negative, [0], List.replicate k 0 ++ first :: rest, none⟩, rfl,
    ⟨by simp, .inl rfl, hdigits, nofun⟩, ?_⟩
  simp [Spelling.unsigned, Spelling.fractionChars, Spelling.exponentChars, digitChars, Nat.digitChar]

/-- One digit in front of the point, and an exponent. -/
theorem spelled_exponent (e : Int) : ∃ x : Spelling, x.negative = negative ∧ x.Sound ∧
    (match digitChars (first :: rest) with
      | [one] => [one]
      | first :: rest => first :: '.' :: rest
      | [] => []) ++ exponentChars e = x.unsigned := by
  obtain ⟨es, htext, hes, -⟩ := toDigits_leading e.natAbs
  have hone : ∀ z ∈ [first], z < 10 := by
    intro z hz
    rw [List.mem_singleton.mp hz]
    exact hlt first List.mem_cons_self
  refine ⟨⟨negative, [first], rest, some (decide (e < 0), es)⟩, rfl,
    ⟨hone, .inr ⟨first, [], rfl, hfirst⟩, fun z hz => hlt z (.tail first hz), fun down ds h => ?_⟩, ?_⟩
  · cases h
    exact ⟨hes.ne_nil, hes.digits⟩
  · cases rest <;> simp [Spelling.unsigned, Spelling.fractionChars, Spelling.exponentChars, digitChars,
      Binary64.exponentChars, htext]

end layouts

/-- The text of a decimal is a numeral without a sign. -/
theorem Decimal.Sound.spelled (negative : Bool) {d : Decimal} (hd : d.Sound) :
    ∃ x : Spelling, x.negative = negative ∧ x.Sound ∧ d.chars = x.unsigned := by
  rw [Decimal.chars]
  cases hdigits : d.digits with
  | nil => exact ⟨⟨negative, [0], [0], none⟩, rfl, ⟨by simp, .inl rfl, by simp, nofun⟩, rfl⟩
  | cons first rest =>
    have hfirst : first ≠ 0 := hd.first first rest hdigits
    have hlt : ∀ z ∈ first :: rest, z < 10 := by rw [← hdigits]; exact hd.digits
    have hlength : (digitChars (first :: rest)).length = rest.length + 1 := by simp [digitChars]
    rw [if_neg (by simp)]
    split
    · next hpoint =>
      split
      · exact spelled_whole negative hfirst hlt _
      · next hmore =>
        obtain ⟨k, hk⟩ : ∃ k, d.point.toNat = k + 1 := ⟨d.point.toNat - 1, by simp at hpoint; omega⟩
        have hinside : k < rest.length := by simp at hpoint; omega
        rw [hk]
        exact spelled_inside negative hfirst hlt hinside
    split
    · exact spelled_small negative hlt _
    · exact spelled_exponent negative hfirst hlt _

theorem chars_spelled (x : Binary64) : ∃ y : Spelling, y.Sound ∧ x.chars = y.chars := by
  obtain ⟨y, hnegative, hy, hchars⟩ := x.shortest_sound.spelled x.negative
  exact ⟨y, hy, by rw [chars, Spelling.chars, hnegative, hchars]⟩

end Binary64

/-- The text of every number is a numeral. -/
theorem Number.text_spelled : ∀ n : Number, ∃ x : Spelling, x.Sound ∧ n.text.toList = x.chars
  | .whole n h => by
    obtain ⟨x, hx, hchars, -⟩ := whole_spelled n h
    exact ⟨x, hx, hchars⟩
  | .float y => by
    obtain ⟨x, hx, hchars⟩ := y.chars_spelled
    have htext : (Number.float y).text.toList = y.chars := String.toList_ofList
    exact ⟨x, hx, htext.trans hchars⟩

end Courier
