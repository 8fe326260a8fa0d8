import Mathlib.Data.List.Nodup
import Courier.Proofs.Text.Mask
import Courier.Text.Composition

/-! Characters taken apart and made again.

    What two characters make comes apart into these two (`apart_made`), and nothing that comes out of a
    character comes apart further (`apart_atoms`). -/

namespace Courier.Text

/-! ### The table -/

/-- A character, and the two that it is made of. -/
structure Composition where
  first : Char
  second : Char
  made : Char

/-- The compositions of some rows. -/
def compositionsOf (rows : List (Nat × List Char)) : List Composition :=
  rows.flatMap fun row => (inPairs row.2).map fun p => ⟨p.1, Char.ofNat row.1, p.2⟩

/-- All compositions. -/
def allCompositions : List Composition := compositionsOf (compositions.map fun row => (row.1, row.2.toList))

/-- The characters that come apart so many times and once more. -/
def deepBits (ts : List Composition) : Nat → Nat
  | 0 => bits (ts.map (·.made.toNat))
  | depth + 1 => bits ((ts.filter fun t => (deepBits ts depth).testBit t.first.toNat).map (·.made.toNat))

/-- The syllables of Hangul and their parts. -/
def hangulRanges : List (Nat × Nat) := [(0x1100, 0x1112), (0x1161, 0x1175), (0x11A8, 0x11C2), (0xAC00, 0xD7A3)]

/-- ASCII, and the ideographs beyond the first plane: they are neither made nor taken up. -/
def inertRanges : List (Nat × Nat) := [(0, 127), (0x20000, 0x2A6DF)]

/-- A table that can be undone: each character is made in one way, second parts do not come apart, no
    character hides too many marks, and neither Hangul nor what is inert is made or a second part. A dot
    is no first part. -/
def isConsistent (ts : List Composition) : Bool :=
  allNew 0 (ts.map (·.made.toNat)) && deepBits ts 3 == 0 && !(bits (ts.map (·.first.toNat))).testBit '.'.toNat &&
    deepBits ts 0 &&& (bits (ts.map (·.second.toNat)) ||| rangeBits (inertRanges ++ hangulRanges)) == 0 &&
    bits (ts.map (·.second.toNat)) &&& rangeBits (inertRanges ++ hangulRanges) == 0

set_option maxRecDepth 100000 in
theorem allCompositions_isConsistent : isConsistent allCompositions = true := by
  simp -index only [allCompositions, compositions, List.map_cons, List.map_nil, String.toList_ofList]
  decide +kernel

theorem made_distinct : (allCompositions.map (·.made.toNat)).Nodup := by
  have h := allCompositions_isConsistent
  simp only [isConsistent, Bool.and_eq_true] at h
  exact (nodup_of_allNew h.1.1.1.1).1

theorem deepBits_three : deepBits allCompositions 3 = 0 := by
  have h := allCompositions_isConsistent
  simp only [isConsistent, Bool.and_eq_true, beq_iff_eq] at h
  exact h.1.1.1.2

variable {t : Composition}

theorem first_ne_dot (ht : t ∈ allCompositions) : t.first ≠ '.' := by
  have h := allCompositions_isConsistent
  simp only [isConsistent, Bool.and_eq_true, Bool.not_eq_true'] at h
  intro hdot
  have hbit := testBit_bits.mpr (List.mem_map_of_mem (f := fun t : Composition => t.first.toNat) ht)
  rw [hdot, h.1.1.2] at hbit
  cases hbit

theorem made_apart (ht : t ∈ allCompositions) :
    inRanges (inertRanges ++ hangulRanges) t.made.toNat = false ∧ ∀ u ∈ allCompositions, t.made ≠ u.second := by
  have h := allCompositions_isConsistent
  simp only [isConsistent, Bool.and_eq_true, beq_iff_eq] at h
  have hmade : (deepBits allCompositions 0).testBit t.made.toNat = true :=
    testBit_bits.mpr (List.mem_map_of_mem (f := fun t : Composition => t.made.toNat) ht)
  have hnone := testBit_of_disjoint h.1.2 hmade
  rw [Nat.testBit_or, Bool.or_eq_false_iff, testBit_rangeBits] at hnone
  refine ⟨hnone.2, fun u hu hsame => ?_⟩
  have hbit := testBit_bits.mpr (List.mem_map_of_mem (f := fun t : Composition => t.second.toNat) hu)
  rw [← hsame, hnone.1] at hbit
  cases hbit

theorem second_apart (ht : t ∈ allCompositions) : inRanges (inertRanges ++ hangulRanges) t.second.toNat = false := by
  have h := allCompositions_isConsistent
  simp only [isConsistent, Bool.and_eq_true, beq_iff_eq] at h
  rw [← testBit_rangeBits]
  exact testBit_of_disjoint h.2 (testBit_bits.mpr (List.mem_map_of_mem (f := fun t : Composition => t.second.toNat) ht))

/-! ### Parts -/

theorem mem_allCompositions {row : Nat × String} (hrow : row ∈ compositions) {p : Char × Char}
    (hp : p ∈ inPairs row.2.toList) : ⟨p.1, Char.ofNat row.1, p.2⟩ ∈ allCompositions :=
  List.mem_flatMap.mpr ⟨_, List.mem_map_of_mem hrow, List.mem_map_of_mem hp⟩

theorem mem_of_parts? {c a b : Char} (h : parts? c = some (a, b)) : ⟨a, b, c⟩ ∈ allCompositions := by
  obtain ⟨row, hrow, hfind⟩ := List.exists_of_findSome?_eq_some h
  obtain ⟨p, hp, hparts⟩ := Option.map_eq_some_iff.mp hfind
  obtain ⟨rfl, rfl⟩ := Prod.mk.inj hparts
  have hmade := List.find?_some hp
  rw [← beq_iff_eq.mp hmade]
  exact mem_allCompositions hrow (List.mem_of_find?_eq_some hp)

theorem parts?_made (ht : t ∈ allCompositions) : parts? t.made = some (t.first, t.second) := by
  cases hparts : parts? t.made with
  | none =>
    obtain ⟨row, hrow, hmem⟩ := List.mem_flatMap.mp ht
    obtain ⟨row, hrow', rfl⟩ := List.mem_map.mp hrow
    obtain ⟨p, hp, rfl⟩ := List.mem_map.mp hmem
    have hnone := List.findSome?_eq_none_iff.mp hparts row hrow'
    rw [Option.map_eq_none_iff, List.find?_eq_none] at hnone
    exact absurd (beq_self_eq_true p.2) (hnone p hp)
  | some p =>
    have hsame := List.inj_on_of_nodup_map made_distinct (mem_of_parts? hparts) ht rfl
    rw [← hsame]

theorem mem_of_made? {a b m : Char} (h : made? a b = some m) :
    hangulSyllable? a.toNat b.toNat = some m ∨ ⟨a, b, m⟩ ∈ allCompositions := by
  rcases Option.or_eq_some_iff.mp h with hsyllable | ⟨-, htable⟩
  · exact .inl hsyllable
  · obtain ⟨row, hrow, hfind⟩ := List.exists_of_findSome?_eq_some htable
    split at hfind
    · next hsecond =>
      obtain ⟨p, hp, rfl⟩ := Option.map_eq_some_iff.mp hfind
      have hmem := mem_allCompositions hrow (List.mem_of_find?_eq_some hp)
      have hfirst := List.find?_some hp
      rw [beq_iff_eq.mp hsecond, Char.ofNat_toNat, beq_iff_eq.mp hfirst] at hmem
      exact .inr hmem
    · cases hfind

/-! ### Coming apart -/

-- the tables make the equation of the recursion deep
set_option maxRecDepth 100000 in
theorem takenApart_succ (times : Nat) (c : Char) : takenApart (times + 1) c = match hangulParts? c.toNat with
    | some parts => parts
    | none => match parts? c with
      | some (a, b) => takenApart times a ++ [b]
      | none => [c] := rfl

theorem hangulParts?_eq_none {n : Nat} (h : ¬ (0xAC00 ≤ n ∧ n ≤ 0xD7A3)) : hangulParts? n = none := by
  rw [hangulParts?, if_neg]
  simp only [Bool.and_eq_true, decide_eq_true_eq]
  unfold hangulStart
  omega

/-- A character that does not come apart. -/
def IsAtom (c : Char) : Prop := hangulParts? c.toNat = none ∧ parts? c = none

theorem takenApart_atom {c : Char} (h : IsAtom c) : ∀ times, takenApart times c = [c]
  | 0 => rfl
  | times + 1 => by rw [takenApart_succ, h.1, h.2]

theorem mem_hangulRanges {n : Nat} : inRanges hangulRanges n = true ↔ (0x1100 ≤ n ∧ n ≤ 0x1112) ∨
    (0x1161 ≤ n ∧ n ≤ 0x1175) ∨ (0x11A8 ≤ n ∧ n ≤ 0x11C2) ∨ (0xAC00 ≤ n ∧ n ≤ 0xD7A3) := by
  simp [inRanges, hangulRanges]

/-- A character of ASCII or Hangul is not in the table. -/
theorem parts?_eq_none {c : Char} (h : inRanges (inertRanges ++ hangulRanges) c.toNat = true) : parts? c = none := by
  cases hparts : parts? c with
  | none => rfl
  | some p =>
    have hnot := (made_apart (mem_of_parts? hparts)).1
    rw [h] at hnot
    cases hnot

theorem second_isAtom (ht : t ∈ allCompositions) : IsAtom t.second := by
  have hout := second_apart ht
  constructor
  · rw [inRanges_append, Bool.or_eq_false_iff] at hout
    have hhangul := mt mem_hangulRanges.mpr (Bool.eq_false_iff.mp hout.2)
    exact hangulParts?_eq_none (by omega)
  · cases hparts : parts? t.second with
    | none => rfl
    | some p => exact absurd rfl ((made_apart (mem_of_parts? hparts)).2 t ht)

/-- The number of a character of Hangul. -/
theorem toNat_hangul {n : Nat} (h : inRanges hangulRanges n = true) : (Char.ofNat n).toNat = n := by
  have hhangul := mem_hangulRanges.mp h
  have hvalid : n.isValidChar := by
    simp only [Nat.isValidChar]
    omega
  rw [Char.ofNat, dif_pos hvalid]
  rfl

/-- A part of a syllable. -/
def IsJamo (c : Char) : Prop := inRanges hangulRanges c.toNat = true ∧ c.toNat < 0xAC00

theorem ofNat_isJamo {n : Nat} (h : inRanges hangulRanges n = true) (hlow : n < 0xAC00) : IsJamo (Char.ofNat n) := by
  rw [IsJamo, toNat_hangul h]
  exact ⟨h, hlow⟩

theorem IsJamo.isAtom {c : Char} (h : IsJamo c) : IsAtom c := by
  refine ⟨hangulParts?_eq_none fun hsyllable => absurd h.2 (by omega), parts?_eq_none ?_⟩
  rw [inRanges_append, Bool.or_eq_true]
  exact .inr h.1

theorem hangulParts_isJamo {n : Nat} {parts : List Char} (h : hangulParts? n = some parts) : ∀ x ∈ parts, IsJamo x := by
  rw [hangulParts?] at h
  split at h
  · next hsyllable =>
    simp only [Bool.and_eq_true, decide_eq_true_eq] at hsyllable
    unfold hangulStart at hsyllable h
    rw [← Option.some.inj h]
    intro x hx
    rcases List.mem_cons.mp hx with rfl | hx
    · exact ofNat_isJamo (mem_hangulRanges.mpr (by omega)) (by omega)
    · rcases List.mem_cons.mp hx with rfl | hx
      · exact ofNat_isJamo (mem_hangulRanges.mpr (by omega)) (by omega)
      · split at hx
        · cases hx
        · next hthird =>
          rw [List.mem_singleton.mp hx]
          simp only [beq_iff_eq] at hthird
          exact ofNat_isJamo (mem_hangulRanges.mpr (by omega)) (by omega)
  · cases h

/-- Characters that come apart at most `depth` times and once more. -/
theorem takenApart_shallow : ∀ (depth : Nat) {c : Char}, (deepBits allCompositions depth).testBit c.toNat = false →
    takenApart (depth + 2) c = takenApart (depth + 1) c ∧ ∀ x ∈ takenApart (depth + 1) c, IsAtom x := by
  intro depth
  induction depth with
  | zero =>
    intro c hdeep
    have hparts : parts? c = none := by
      cases hparts : parts? c with
      | none => rfl
      | some p =>
        have hbit := testBit_bits.mpr
          (List.mem_map_of_mem (f := fun t : Composition => t.made.toNat) (mem_of_parts? hparts))
        exact absurd hbit (Bool.eq_false_iff.mp hdeep)
    rw [takenApart_succ, takenApart_succ, hparts]
    cases hhangul : hangulParts? c.toNat with
    | some parts => exact ⟨rfl, fun x hx => (hangulParts_isJamo hhangul x hx).isAtom⟩
    | none => exact ⟨rfl, by simpa using ⟨hhangul, hparts⟩⟩
  | succ depth ih =>
    intro c hdeep
    rw [takenApart_succ, takenApart_succ]
    cases hhangul : hangulParts? c.toNat with
    | some parts => exact ⟨rfl, fun x hx => (hangulParts_isJamo hhangul x hx).isAtom⟩
    | none =>
      cases hparts : parts? c with
      | none => exact ⟨rfl, by simpa using ⟨hhangul, hparts⟩⟩
      | some p =>
        have ht := mem_of_parts? hparts
        have hfirst : (deepBits allCompositions depth).testBit p.1.toNat = false := by
          rw [Bool.eq_false_iff] at hdeep ⊢
          intro hbit
          exact hdeep (testBit_bits.mpr
            (List.mem_map_of_mem (f := fun t : Composition => t.made.toNat) (List.mem_filter.mpr ⟨ht, hbit⟩)))
        obtain ⟨hsame, hatoms⟩ := ih hfirst
        refine ⟨congrArg (· ++ [p.2]) hsame, fun x hx => ?_⟩
        rcases List.mem_append.mp hx with hx | hx
        · exact hatoms x hx
        · rw [List.mem_singleton.mp hx]
          exact second_isAtom ht

/-- A character as it comes apart. -/
def apart (c : Char) : List Char := takenApart mostMarks c

theorem apart_atoms (c : Char) : ∀ x ∈ apart c, IsAtom x := by
  refine (takenApart_shallow 3 ?_).2
  rw [deepBits_three]
  exact Nat.zero_testBit _

theorem apart_atom {c : Char} (h : IsAtom c) : apart c = [c] := takenApart_atom h _

/-- What a character of the table comes apart into. -/
theorem apart_of_mem (ht : t ∈ allCompositions) : apart t.made = apart t.first ++ [t.second] := by
  have hshallow : (deepBits allCompositions 2).testBit t.first.toNat = false := by
    rw [Bool.eq_false_iff]
    intro hbit
    have hdeep : (deepBits allCompositions 3).testBit t.made.toNat = true := testBit_bits.mpr
      (List.mem_map_of_mem (f := fun t : Composition => t.made.toNat) (List.mem_filter.mpr ⟨ht, hbit⟩))
    rw [deepBits_three, Nat.zero_testBit] at hdeep
    cases hdeep
  have hnotHangul : hangulParts? t.made.toNat = none := by
    have hout := (made_apart ht).1
    rw [inRanges_append, Bool.or_eq_false_iff] at hout
    have hhangul := mt mem_hangulRanges.mpr (Bool.eq_false_iff.mp hout.2)
    exact hangulParts?_eq_none (by omega)
  have hsame : takenApart 4 t.first = takenApart 3 t.first := (takenApart_shallow 2 hshallow).1
  rw [apart, apart, mostMarks, takenApart_succ, hnotHangul, parts?_made ht, hsame]

theorem apart_syllable {i : Nat} (h : i < 19 * 588) : apart (Char.ofNat (0xAC00 + i)) =
    Char.ofNat (0x1100 + i / 588) :: Char.ofNat (0x1161 + i % 588 / 28) ::
      if i % 28 == 0 then [] else [Char.ofNat (0x11A7 + i % 28)] := by
  have hnumber : (Char.ofNat (0xAC00 + i)).toNat = 0xAC00 + i := toNat_hangul (mem_hangulRanges.mpr (by omega))
  have hinside : (hangulStart ≤ 0xAC00 + i && 0xAC00 + i < hangulStart + 19 * 588) = true := by
    simp only [Bool.and_eq_true, decide_eq_true_eq]
    unfold hangulStart
    omega
  have hplace : 0xAC00 + i - hangulStart = i := Nat.add_sub_cancel_left _ _
  rw [apart, mostMarks, takenApart_succ, hnumber, hangulParts?, if_pos hinside, hplace]

/-- What two characters of Hangul make comes apart into the two. -/
theorem apart_hangul {a b m : Char} (h : hangulSyllable? a.toNat b.toNat = some m) :
    apart m = apart a ++ [b] ∧ IsAtom b ∧ inRanges hangulRanges m.toNat = true := by
  rw [hangulSyllable?] at h
  split at h
  · -- a first and a second part
    next hparts =>
    simp only [Bool.and_eq_true, decide_eq_true_eq] at hparts
    generalize hi : (a.toNat - 0x1100) * 588 + (b.toNat - 0x1161) * 28 = i
    have hm : Char.ofNat (0xAC00 + i) = m := by
      rw [← hi, ← Nat.add_assoc]
      exact Option.some.inj h
    have ha : IsJamo a := ⟨mem_hangulRanges.mpr (by omega), by omega⟩
    have hb : IsJamo b := ⟨mem_hangulRanges.mpr (by omega), by omega⟩
    have hfirst : 0x1100 + i / 588 = a.toNat := by omega
    have hsecond : 0x1161 + i % 588 / 28 = b.toNat := by omega
    have hthird : (i % 28 == 0) = true := by
      rw [beq_iff_eq]
      omega
    have hsyllable : inRanges hangulRanges (0xAC00 + i) = true := mem_hangulRanges.mpr (by omega)
    refine ⟨?_, hb.isAtom, by rwa [← hm, toNat_hangul hsyllable]⟩
    rw [← hm, apart_syllable (by omega), hfirst, hsecond, hthird, Char.ofNat_toNat, Char.ofNat_toNat,
      apart_atom ha.isAtom]
    rfl
  · -- a syllable of two parts, and a third part
    split at h
    · next hparts =>
      simp only [Bool.and_eq_true, decide_eq_true_eq, beq_iff_eq] at hparts
      unfold hangulStart at hparts
      obtain ⟨i, hi⟩ : ∃ i, a.toNat = 0xAC00 + i := ⟨a.toNat - 0xAC00, by omega⟩
      obtain ⟨j, hj⟩ : ∃ j, b.toNat = 0x11A7 + j := ⟨b.toNat - 0x11A7, by omega⟩
      have hm : Char.ofNat (0xAC00 + (i + j)) = m := by
        have hplace : a.toNat + (b.toNat - 0x11A7) = 0xAC00 + (i + j) := by omega
        rw [← hplace]
        exact Option.some.inj h
      have ha : Char.ofNat (0xAC00 + i) = a := by rw [← hi, Char.ofNat_toNat]
      have hb : IsJamo b := ⟨mem_hangulRanges.mpr (by omega), by omega⟩
      have hfirst : (i + j) / 588 = i / 588 := by omega
      have hsecond : (i + j) % 588 / 28 = i % 588 / 28 := by omega
      have hthird : (i + j) % 28 = j := by omega
      have hnone : (i % 28 == 0) = true := by
        rw [beq_iff_eq]
        omega
      have hsome : ¬ (j == 0) = true := by
        rw [beq_iff_eq]
        omega
      have hsyllable : inRanges hangulRanges (0xAC00 + (i + j)) = true := mem_hangulRanges.mpr (by omega)
      refine ⟨?_, hb.isAtom, by rwa [← hm, toNat_hangul hsyllable]⟩
      rw [← hm, ← ha, apart_syllable (by omega), apart_syllable (by omega), hfirst, hsecond, hthird, if_pos hnone,
        if_neg hsome, ← hj, Char.ofNat_toNat]
      rfl
    · cases h

/-- What two characters make comes apart into the two. -/
theorem apart_made {a b m : Char} (h : made? a b = some m) : apart m = apart a ++ [b] ∧ IsAtom b := by
  rcases mem_of_made? h with hsyllable | ht
  · exact ⟨(apart_hangul hsyllable).1, (apart_hangul hsyllable).2.1⟩
  · exact ⟨apart_of_mem ht, second_isAtom ht⟩

/-! ### What characters and their parts have in common -/

section closed

variable {P : Char → Prop} (htable : ∀ t ∈ allCompositions, P t.made ↔ P t.first ∧ P t.second)
  (hhangul : ∀ c : Char, inRanges hangulRanges c.toNat = true → P c)

include htable hhangul

theorem takenApart_closed : ∀ (times : Nat) (c : Char), P c → ∀ x ∈ takenApart times c, P x
  | 0, c, hc, x, hx => by rwa [List.mem_singleton.mp hx]
  | times + 1, c, hc, x, hx => by
    rw [takenApart_succ] at hx
    split at hx
    · next hsyllable => exact hhangul x (hangulParts_isJamo hsyllable x hx).1
    · split at hx
      · next a b hparts =>
        obtain ⟨ha, hb⟩ := (htable _ (mem_of_parts? hparts)).mp hc
        rcases List.mem_append.mp hx with hx | hx
        · exact takenApart_closed times a ha x hx
        · rwa [List.mem_singleton.mp hx]
      · rwa [List.mem_singleton.mp hx]

theorem made_closed {a b m : Char} (h : made? a b = some m) (ha : P a) (hb : P b) : P m := by
  rcases mem_of_made? h with hsyllable | ht
  · exact hhangul m (apart_hangul hsyllable).2.2
  · exact (htable _ ht).mpr ⟨ha, hb⟩

end closed

end Courier.Text
