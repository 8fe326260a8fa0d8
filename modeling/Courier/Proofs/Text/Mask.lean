import Courier.Text.Ranges

/-! Sets of code points as numbers.

    A set of code points is the number whose bits are set at them. Whole tables are compared by one
    operation on such numbers. -/

namespace Courier.Text

/-- The bits of some code points. -/
def bits (ns : List Nat) : Nat := ns.foldr (fun n m => m ||| 1 <<< n) 0

/-- The bits of stretches of code points, from a start and so many of them. -/
def spanBits (rs : List (Nat × Nat)) : Nat := rs.foldr (fun r m => m ||| (1 <<< r.2 - 1) <<< r.1) 0

/-- The bits of ranges of code points, ends included. -/
def rangeBits (rs : List (Nat × Nat)) : Nat := spanBits (rs.map fun r => (r.1, r.2 + 1 - r.1))

theorem testBit_bits {n : Nat} : ∀ {ns : List Nat}, (bits ns).testBit n = true ↔ n ∈ ns
  | [] => by simp [bits]
  | m :: ns => by
    have ih : (bits ns).testBit n = true ↔ n ∈ ns := testBit_bits
    rw [bits] at ih ⊢
    rw [List.foldr_cons, Nat.testBit_or, Bool.or_eq_true, ih, List.mem_cons, or_comm, Nat.one_shiftLeft,
      Nat.testBit_two_pow, decide_eq_true_eq, eq_comm]

theorem testBit_spanBits {n : Nat} : ∀ {rs : List (Nat × Nat)},
    (spanBits rs).testBit n = true ↔ ∃ r ∈ rs, r.1 ≤ n ∧ n < r.1 + r.2
  | [] => by simp [spanBits]
  | r :: rs => by
    have ih : (spanBits rs).testBit n = true ↔ ∃ r ∈ rs, r.1 ≤ n ∧ n < r.1 + r.2 := testBit_spanBits
    have hone : ((1 <<< r.2 - 1) <<< r.1).testBit n = true ↔ r.1 ≤ n ∧ n < r.1 + r.2 := by
      rw [Nat.one_shiftLeft, Nat.testBit_shiftLeft, Nat.testBit_two_pow_sub_one, Bool.and_eq_true, decide_eq_true_eq, decide_eq_true_eq]
      omega
    rw [spanBits] at ih ⊢
    rw [List.foldr_cons, Nat.testBit_or, Bool.or_eq_true, ih, hone, or_comm]
    simp

theorem testBit_rangeBits {n : Nat} {rs : List (Nat × Nat)} : (rangeBits rs).testBit n = inRanges rs n := by
  rw [Bool.eq_iff_iff, rangeBits, testBit_spanBits, inRanges, List.any_eq_true]
  simp only [Bool.and_eq_true, decide_eq_true_eq]
  constructor
  · rintro ⟨s, hs, hlow, hhigh⟩
    obtain ⟨r, hr, rfl⟩ := List.mem_map.mp hs
    exact ⟨r, hr, hlow, by omega⟩
  · rintro ⟨r, hr, hlow, hhigh⟩
    exact ⟨_, List.mem_map_of_mem hr, hlow, by omega⟩

theorem inRanges_append (rs rs' : List (Nat × Nat)) (n : Nat) :
    inRanges (rs ++ rs') n = (inRanges rs n || inRanges rs' n) := List.any_append

/-- Sets without a code point in common. -/
theorem testBit_of_disjoint {m m' n : Nat} (h : m &&& m' = 0) (hm : m.testBit n = true) : m'.testBit n = false := by
  have hboth := congrArg (Nat.testBit · n) h
  simpa [Nat.testBit_and, hm] using hboth

/-- What holds of all characters of ASCII, by a look at each of them. -/
theorem ascii_forall {P : Char → Prop} (h : ∀ n < 128, P (Char.ofNat n)) {c : Char} (hc : c.toNat < 128) : P c := by
  have hchar := h c.toNat hc
  rwa [Char.ofNat_toNat] at hchar

/-- Whether no code point is in a set or stands twice. -/
def allNew (seen : Nat) : List Nat → Bool
  | [] => true
  | n :: ns => !seen.testBit n && allNew (seen ||| 1 <<< n) ns

theorem nodup_of_allNew : ∀ {ns : List Nat} {seen : Nat}, allNew seen ns = true →
    ns.Nodup ∧ ∀ n ∈ ns, seen.testBit n = false
  | [], _, _ => ⟨.nil, nofun⟩
  | n :: ns, seen, h => by
    rw [allNew, Bool.and_eq_true, Bool.not_eq_true'] at h
    obtain ⟨hnodup, hnew⟩ := nodup_of_allNew h.2
    have hlater : ∀ m ∈ ns, seen.testBit m = false ∧ (1 <<< n : Nat).testBit m = false := fun m hm => by
      simpa [Nat.testBit_or] using hnew m hm
    refine ⟨List.nodup_cons.mpr ⟨fun hmem => ?_, hnodup⟩, fun m hm => ?_⟩
    · have hself := (hlater n hmem).2
      simp [Nat.testBit_shiftLeft] at hself
    · rcases List.mem_cons.mp hm with rfl | hmem
      · exact h.1
      · exact (hlater m hmem).1

end Courier.Text
