import Courier.Proofs.Cut
import Courier.Proofs.Text.Composed
import Courier.Url.Plain

/-! Plain text stays.

    The plain form of a character is made of characters that are their own plain form
    (`plainChar?_plain`), and composing keeps it that way. So plain text has itself as its plain form, and
    so has each piece of it between dots (`plain?_piece`). -/

namespace Courier.Url

open Text

/-! ### The tables -/

/-- The code points of a run. -/
def runPoints (r : ShiftRun) : List Nat :=
  (List.range ((r.last - r.first) / r.step + 1)).map fun i => r.first + r.step * i

/-- The letters of the table. -/
def letterRows : List (Nat × List Char) := plainLetters.map fun run => (run.1, run.2.toList)

/-- The words of the table. -/
def wordRows : List (Nat × List (List Char)) := plainWords.map fun run => (run.1, run.2.map String.toList)

/-- The characters beyond ASCII that have another form than themselves. -/
def respelledBits (letters : List (Nat × List Char)) (words : List (Nat × List (List Char))) : Nat :=
  rangeBits droppedRanges ||| bits (plainRuns.flatMap runPoints) ||| spanBits (letters.map fun r => (r.1, r.2.length)) |||
    spanBits (words.map fun r => (r.1, r.2.length))

/-- The characters that do not stay: those that no domain may hold, the respelled ones, and capitals. -/
def changedBits (letters : List (Nat × List Char)) (words : List (Nat × List (List Char))) : Nat :=
  rangeBits unfitRanges ||| respelledBits letters words ||| rangeBits [(65, 90)]

/-- The characters of the forms. -/
def formBits (letters : List (Nat × List Char)) (words : List (Nat × List (List Char))) : Nat :=
  bits (plainRuns.flatMap fun r => (runPoints r).map fun (n : Nat) => (Char.ofNat (Int.toNat (n + r.shift))).toNat) |||
    bits (letters.flatMap fun r => r.2.map Char.toNat) ||| bits (words.flatMap fun r => r.2.flatten.map Char.toNat)

/-- Tables that agree: what stands in a form stays, ASCII changes by its capitals alone, Hangul and the
    ideographs beyond the first plane do not change, and a composed character stays if and only if its parts
    do. -/
def areConsistent (letters : List (Nat × List Char)) (words : List (Nat × List (List Char))) (ts : List Composition) :
    Bool :=
  changedBits letters words &&& (formBits letters words ||| rangeBits ((0x20000, 0x2A6DF) :: hangulRanges)) == 0 &&
    (rangeBits unfitRanges ||| respelledBits letters words) &&& rangeBits [(0, 127)] == 0 &&
    ts.all fun t => (changedBits letters words).testBit t.made.toNat ==
      ((changedBits letters words).testBit t.first.toNat || (changedBits letters words).testBit t.second.toNat)

set_option maxRecDepth 100000 in
theorem tables_areConsistent : areConsistent letterRows wordRows allCompositions = true := by
  simp -index only [letterRows, wordRows, allCompositions, plainLetters, plainWords, compositions, List.map_cons,
    List.map_nil, String.toList_ofList]
  decide +kernel

/-! ### Runs -/

theorem mem_runPoints {r : ShiftRun} (hfirst : r.first ≤ r.last) (hstep : 0 < r.step) {n : Nat} :
    n ∈ runPoints r ↔ r.holds n = true := by
  simp only [runPoints, ShiftRun.holds, List.mem_map, List.mem_range, Nat.lt_succ_iff, Bool.and_eq_true,
    decide_eq_true_eq, beq_iff_eq]
  constructor
  · rintro ⟨i, hi, rfl⟩
    have hlast : r.step * i ≤ r.last - r.first := by
      rw [Nat.mul_comm]
      exact (Nat.le_div_iff_mul_le hstep).mp hi
    refine ⟨⟨by omega, by omega⟩, ?_⟩
    rw [Nat.add_sub_cancel_left]
    exact Nat.mul_mod_right _ _
  · rintro ⟨⟨hlow, hhigh⟩, hmod⟩
    refine ⟨(n - r.first) / r.step, Nat.div_le_div_right (by omega), ?_⟩
    rw [Nat.mul_div_cancel' (Nat.dvd_of_mod_eq_zero hmod)]
    omega

theorem plainRuns_forward : ∀ r ∈ plainRuns, r.first ≤ r.last ∧ 0 < r.step := by decide +kernel

theorem mem_plainRuns {n : Nat} : n ∈ plainRuns.flatMap runPoints ↔ ∃ r ∈ plainRuns, r.holds n = true := by
  rw [List.mem_flatMap]
  exact exists_congr fun r => and_congr_right fun hr =>
    mem_runPoints (plainRuns_forward r hr).1 (plainRuns_forward r hr).2

theorem shifted?_isSome {n : Nat} : (shifted? plainRuns n).isSome = true ↔ n ∈ plainRuns.flatMap runPoints := by
  rw [mem_plainRuns, shifted?, Option.isSome_map, List.find?_isSome]

theorem runItem?_isSome {α : Type} {runs : List (Nat × List α)} {n : Nat} :
    (runItem? runs n).isSome = true ↔ ∃ r ∈ runs, r.1 ≤ n ∧ n < r.1 + r.2.length := by
  rw [runItem?, List.findSome?_isSome_iff]
  refine exists_congr fun r => and_congr_right fun _ => ?_
  split
  · simp only [isSome_getElem?]
    omega
  · next hlow => simp [hlow]

theorem mem_of_runItem? {α : Type} {runs : List (Nat × List α)} {n : Nat} {a : α} (h : runItem? runs n = some a) :
    ∃ r ∈ runs, a ∈ r.2 := by
  obtain ⟨r, hr, hitem⟩ := List.exists_of_findSome?_eq_some h
  split at hitem
  · exact ⟨r, hr, List.mem_of_getElem? hitem⟩
  · cases hitem

/-! ### Forms -/

theorem testBit_respelled {n : Nat} :
    (respelledBits letterRows wordRows).testBit n = true ↔ (plainForm? n).isSome = true := by
  have hletters : (spanBits (letterRows.map fun r => (r.1, r.2.length))).testBit n = true ↔
      (runItem? letterRows n).isSome = true := by
    rw [testBit_spanBits, runItem?_isSome]
    simp
  have hwords : (spanBits (wordRows.map fun r => (r.1, r.2.length))).testBit n = true ↔
      (runItem? plainWords n).isSome = true := by
    rw [testBit_spanBits, runItem?_isSome]
    simp [wordRows]
  rw [respelledBits, Nat.testBit_or, Nat.testBit_or, Nat.testBit_or, Bool.or_eq_true, Bool.or_eq_true, Bool.or_eq_true,
    hletters, hwords, testBit_rangeBits, testBit_bits, ← shifted?_isSome, plainForm?]
  split
  · next hdropped => simp [hdropped]
  · next hkept => simp [hkept, letterRows, or_assoc]

theorem testBit_form {n : Nat} {form : List Char} (h : plainForm? n = some form) :
    ∀ x ∈ form, (formBits letterRows wordRows).testBit x.toNat = true := by
  intro x hx
  rw [formBits, Nat.testBit_or, Nat.testBit_or, Bool.or_eq_true, Bool.or_eq_true, testBit_bits, testBit_bits,
    testBit_bits]
  rw [plainForm?] at h
  split at h
  · rw [← Option.some.inj h] at hx
    cases hx
  · rcases Option.or_eq_some_iff.mp h with h | ⟨-, h⟩
    · obtain ⟨c, hc, rfl⟩ := Option.map_eq_some_iff.mp h
      obtain ⟨r, hfind, rfl⟩ := Option.map_eq_some_iff.mp hc
      rw [List.mem_singleton.mp hx]
      have hr := List.mem_of_find?_eq_some hfind
      have hholds := List.find?_some hfind
      have hpoint := (mem_runPoints (plainRuns_forward r hr).1 (plainRuns_forward r hr).2).mpr hholds
      exact .inl (.inl (List.mem_flatMap.mpr ⟨r, hr, List.mem_map_of_mem hpoint⟩))
    · rcases Option.or_eq_some_iff.mp h with h | ⟨-, h⟩
      · obtain ⟨c, hc, rfl⟩ := Option.map_eq_some_iff.mp h
        obtain ⟨r, hr, hmem⟩ := mem_of_runItem? hc
        rw [List.mem_singleton.mp hx]
        exact .inl (.inr (List.mem_flatMap.mpr ⟨r, hr, List.mem_map_of_mem hmem⟩))
      · obtain ⟨w, hw, rfl⟩ := Option.map_eq_some_iff.mp h
        obtain ⟨r, hr, hmem⟩ := mem_of_runItem? hw
        refine .inr (List.mem_flatMap.mpr ⟨_, List.mem_map_of_mem hr, List.mem_map_of_mem ?_⟩)
        exact List.mem_flatten.mpr ⟨_, List.mem_map_of_mem hmem, hx⟩

/-! ### Characters -/

/-- A character that is its own plain form. -/
def IsPlain (c : Char) : Prop := plainChar? c = some [c]

theorem changed_form {n : Nat} (h : (formBits letterRows wordRows).testBit n = true) :
    (changedBits letterRows wordRows).testBit n = false := by
  have htables := tables_areConsistent
  simp only [areConsistent, Bool.and_eq_true, beq_iff_eq] at htables
  rw [Bool.eq_false_iff]
  intro hchanged
  have hnone := testBit_of_disjoint htables.1.1 hchanged
  rw [Nat.testBit_or, h] at hnone
  cases hnone

/-- Small letters of ASCII, and what is no letter. -/
theorem ascii_lower {c : Char} (h : c.toNat < 128) : (c.toLower.toNat < 128 ∧ c.toLower.toLower = c.toLower) ∧
    (c.toLower = c ↔ inRanges [(65, 90)] c.toNat = false) :=
  ascii_forall (P := fun c => (c.toLower.toNat < 128 ∧ c.toLower.toLower = c.toLower) ∧
    (c.toLower = c ↔ inRanges [(65, 90)] c.toNat = false)) (by decide +kernel) h

theorem isPlain_ascii {c : Char} (h : c.toNat < 128) : IsPlain c ↔ c.toLower = c := by
  rw [IsPlain, plainChar?, if_pos h]
  simp

theorem isPlain_iff {c : Char} : IsPlain c ↔ (changedBits letterRows wordRows).testBit c.toNat = false := by
  have htables := tables_areConsistent
  simp only [areConsistent, Bool.and_eq_true, beq_iff_eq] at htables
  rw [changedBits, Nat.testBit_or, Bool.or_eq_false_iff, testBit_rangeBits]
  by_cases hascii : c.toNat < 128
  · have hrange : (rangeBits [(0, 127)]).testBit c.toNat = true := by
      rw [testBit_rangeBits, inRanges]
      simpa using Nat.le_of_lt_succ hascii
    have hnone : (rangeBits unfitRanges ||| respelledBits letterRows wordRows).testBit c.toNat = false := by
      rw [Bool.eq_false_iff]
      intro hbit
      rw [testBit_of_disjoint htables.1.2 hbit] at hrange
      cases hrange
    rw [isPlain_ascii hascii, (ascii_lower hascii).2]
    simp [hnone]
  · have hcapital : inRanges [(65, 90)] c.toNat = false := by
      rw [inRanges]
      simp
      omega
    rw [IsPlain, plainChar?, if_neg hascii, hcapital, Nat.testBit_or, Bool.or_eq_false_iff, testBit_rangeBits]
    cases hunfit : inRanges unfitRanges c.toNat with
    | true => simp
    | false =>
      cases hform : plainForm? c.toNat with
      | none =>
        have hkept : (respelledBits letterRows wordRows).testBit c.toNat = false := by
          rw [Bool.eq_false_iff, ne_eq, testBit_respelled, hform]
          exact Bool.false_ne_true
        simp [hkept]
      | some form =>
        have hrespelled : (respelledBits letterRows wordRows).testBit c.toNat = true := by
          rw [testBit_respelled, hform]
          rfl
        have hother : form ≠ [c] := by
          rintro rfl
          have hstays := changed_form (testBit_form hform c (.head _))
          rw [changedBits, Nat.testBit_or, Nat.testBit_or, hrespelled, Bool.or_true, Bool.true_or] at hstays
          cases hstays
        simp [hrespelled, hother]

/-- A form is made of characters that are their own plain form. -/
theorem plainChar?_plain {c : Char} {form : List Char} (h : plainChar? c = some form) : ∀ x ∈ form, IsPlain x := by
  have hself := h
  rw [plainChar?] at h
  split at h
  · next hascii =>
    intro x hx
    rw [← Option.some.inj h, List.mem_singleton] at hx
    obtain ⟨⟨hlow, hsame⟩, -⟩ := ascii_lower hascii
    exact hx ▸ (isPlain_ascii hlow).mpr hsame
  · split at h
    · cases h
    · cases hform : plainForm? c.toNat with
      | none =>
        rw [hform, Option.getD_none] at h
        intro x hx
        rw [← Option.some.inj h, List.mem_singleton] at hx
        rw [hx, IsPlain, hself, ← h]
      | some form' =>
        rw [hform, Option.getD_some] at h
        obtain rfl := Option.some.inj h
        exact fun x hx => isPlain_iff.mpr (changed_form (testBit_form hform x hx))

/-! ### Texts -/

theorem isPlain_unchanged {c : Char} (h : inRanges ((0x20000, 0x2A6DF) :: hangulRanges) c.toNat = true) : IsPlain c := by
  have htables := tables_areConsistent
  simp only [areConsistent, Bool.and_eq_true, beq_iff_eq] at htables
  rw [isPlain_iff, Bool.eq_false_iff]
  intro hchanged
  have hnone := testBit_of_disjoint htables.1.1 hchanged
  rw [Nat.testBit_or, testBit_rangeBits, h, Bool.or_true] at hnone
  cases hnone

theorem isPlain_made {t : Composition} (ht : t ∈ allCompositions) : IsPlain t.made ↔ IsPlain t.first ∧ IsPlain t.second := by
  have htables := tables_areConsistent
  simp only [areConsistent, Bool.and_eq_true] at htables
  have hsame := List.all_eq_true.mp htables.2 t ht
  rw [beq_iff_eq] at hsame
  rw [isPlain_iff, isPlain_iff, isPlain_iff, hsame, Bool.or_eq_false_iff]

/-- What a domain may hold. -/
def isAllowed (cs : List Char) : Bool := !cs.any fun c => c.toNat < 128 && isForbiddenInDomain c

theorem plain?_eq_some {cs p : List Char} : plain? cs = some p ↔
    ∃ forms, cs.mapM plainChar? = some forms ∧ composed forms.flatten = p ∧ isAllowed p = true := by
  simp only [plain?, Option.bind_eq_bind, failure_bind, Option.bind_eq_some_iff, Option.ite_none_left_eq_some,
    Option.pure_def, Option.some.injEq, isAllowed, Bool.not_eq_true', Bool.not_eq_true]
  refine exists_congr fun forms => and_congr_right fun _ => ?_
  constructor
  · rintro ⟨hallowed, rfl⟩
    exact ⟨rfl, hallowed⟩
  · rintro ⟨rfl, hallowed⟩
    exact ⟨hallowed, rfl⟩

/-- Composed text of characters that are their own plain form. -/
theorem plain?_self {cs : List Char} (hplain : ∀ c ∈ cs, IsPlain c) (hcomposed : composed cs = cs)
    (hallowed : isAllowed cs = true) : plain? cs = some cs := by
  refine plain?_eq_some.mpr ⟨cs.map ([·]), mapM_eq_some_iff.mpr ?_, ?_, hallowed⟩
  · rw [List.map_map]
    exact List.map_congr_left hplain
  · rw [← List.flatMap_def, List.flatMap_singleton', hcomposed]

theorem plain?_plain {cs p : List Char} (h : plain? cs = some p) :
    (∀ c ∈ p, IsPlain c) ∧ composed p = p ∧ isAllowed p = true := by
  obtain ⟨forms, hforms, rfl, hallowed⟩ := plain?_eq_some.mp h
  refine ⟨composed_closed (fun t => isPlain_made) (fun c hc => isPlain_unchanged ?_) fun c hc => ?_, composed_composed _, hallowed⟩
  · rw [inRanges, List.any_cons, Bool.or_eq_true]
    exact .inr hc
  · obtain ⟨form, hform, hc⟩ := List.mem_flatten.mp hc
    obtain ⟨x, -, hx⟩ := List.mem_map.mp (mapM_eq_some_iff.mp hforms ▸ List.mem_map_of_mem hform)
    exact plainChar?_plain hx c hc

/-- Each piece of plain text is plain. -/
theorem plain?_piece {cs p : List Char} (h : plain? cs = some p) : ∀ s ∈ p.splitOn '.', plain? s = some s := by
  obtain ⟨hplain, hcomposed, hallowed⟩ := plain?_plain h
  intro s hs
  have hmem : ∀ c ∈ s, c ∈ p := fun c hc => (mem_of_splitOn hs c hc).1
  refine plain?_self (fun c hc => hplain c (hmem c hc)) (composed_piece hcomposed s hs) ?_
  simp only [isAllowed, Bool.not_eq_true', List.any_eq_false] at hallowed ⊢
  exact fun c hc => hallowed c (hmem c hc)

end Courier.Url
