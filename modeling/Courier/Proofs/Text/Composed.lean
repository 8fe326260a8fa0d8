import Mathlib.Data.List.Induction
import Courier.Proofs.Cut
import Courier.Proofs.Text.Parts

/-! Composed text stays.

    Composing loses nothing of the sorted parts of a text, so that they come out of what was composed
    (`sortedBack_composed`) and composing once more changes nothing (`composed_composed`). Dots cut a
    text into pieces that are composed for themselves (`composed_cut`). -/

namespace Courier.Text

/-! ### Marks in order -/

/-- Characters in order of their ranks, the last one first. -/
def sortedBack (cs : List Char) : List Char := cs.foldl (fun before c => putMark c before) []

/-- Whether no mark stands behind one of higher rank; the last character comes first. -/
def InOrder : List Char → Prop
  | c :: d :: before => ¬ (0 < rankOf c ∧ rankOf c < rankOf d) ∧ InOrder (d :: before)
  | _ => True

theorem putMark_cons (c d : Char) (before : List Char) : putMark c (d :: before) =
    if 0 < rankOf c ∧ rankOf c < rankOf d then d :: putMark c before else c :: d :: before := by
  simp only [putMark, Bool.and_eq_true, decide_eq_true_eq]

theorem InOrder.putMark_eq {c : Char} : ∀ {before : List Char}, InOrder (c :: before) → putMark c before = c :: before
  | [], _ => rfl
  | d :: before, h => by rw [putMark_cons, if_neg h.1]

theorem putMark_inOrder {c : Char} : ∀ {before : List Char}, InOrder before → InOrder (putMark c before)
  | [], _ => trivial
  | d :: before, h => by
    rw [putMark_cons]
    split
    · next hpass =>
      cases before with
      | nil => exact ⟨by omega, trivial⟩
      | cons d' before =>
        have ih := putMark_inOrder (c := c) h.2
        rw [putMark_cons] at ih ⊢
        split at ih
        · next hpass' =>
          rw [if_pos hpass']
          exact ⟨h.1, ih⟩
        · next hstop =>
          rw [if_neg hstop]
          exact ⟨by omega, ih⟩
    · next hstop => exact ⟨hstop, h⟩

theorem sortedBack_append (xs ys : List Char) :
    sortedBack (xs ++ ys) = ys.foldl (fun before c => putMark c before) (sortedBack xs) := List.foldl_append

theorem sortedBack_concat (cs : List Char) (c : Char) : sortedBack (cs ++ [c]) = putMark c (sortedBack cs) := by
  rw [sortedBack_append]
  rfl

theorem sortedBack_inOrder (cs : List Char) : InOrder (sortedBack cs) := by
  induction cs using List.reverseRecOn with
  | nil => trivial
  | append_singleton cs c ih =>
    rw [sortedBack_concat]
    exact putMark_inOrder ih

theorem InOrder.tail {c : Char} {cs : List Char} (h : InOrder (c :: cs)) : InOrder cs := by
  cases cs with
  | nil => trivial
  | cons d before => exact h.2

theorem mem_putMark {c x : Char} : ∀ {before : List Char}, x ∈ putMark c before ↔ x = c ∨ x ∈ before
  | [] => by simp [putMark]
  | d :: before => by
    rw [putMark_cons]
    split
    · rw [List.mem_cons, mem_putMark, List.mem_cons, or_left_comm]
    · exact List.mem_cons

theorem mem_sortedBack {x : Char} {cs : List Char} : x ∈ sortedBack cs ↔ x ∈ cs := by
  induction cs using List.reverseRecOn with
  | nil => exact Iff.rfl
  | append_singleton cs c ih =>
    rw [sortedBack_concat, mem_putMark, ih, List.mem_append, List.mem_singleton, or_comm]

/-- Marks of different ranks may be put in either order. -/
theorem putMark_comm {c m : Char} (hm : 0 < rankOf m) (h : rankOf m < rankOf c) : ∀ before : List Char,
    putMark m (putMark c before) = putMark c (putMark m before)
  | [] => by simp [putMark, hm, h, Nat.lt_asymm h]
  | d :: before => by
    have ih := putMark_comm hm h before
    by_cases hhigh : rankOf c < rankOf d
    · have hboth : rankOf m < rankOf d := Nat.lt_trans h hhigh
      simp [putMark_cons, hhigh, hboth, hm, Nat.lt_trans hm h, ih]
    · by_cases hlow : rankOf m < rankOf d <;> simp [putMark_cons, hhigh, hlow, hm, h, Nat.lt_asymm h]

theorem foldl_putMark_comm {c : Char} : ∀ {marks : List Char}, (∀ m ∈ marks, 0 < rankOf m ∧ rankOf m < rankOf c) →
    ∀ before, marks.foldl (fun before c => putMark c before) (putMark c before)
      = putMark c (marks.foldl (fun before c => putMark c before) before)
  | [], _, _ => rfl
  | m :: marks, h, before => by
    obtain ⟨hm, hlow⟩ := h m List.mem_cons_self
    rw [List.foldl_cons, putMark_comm hm hlow, foldl_putMark_comm fun m' hm' => h m' (.tail _ hm')]
    rfl

/-! ### Nothing is lost -/

namespace Composing

/-- What is composed comes apart into what was taken, the last character first; the marks behind the
    letter stand in order. -/
structure Keeps (taken : List Char) (t : Composing) : Prop where
  back : sortedBack (t.all.reverse.flatMap apart) = taken
  ordered : t.marks.Pairwise fun m before => rankOf before ≤ rankOf m
  marks : ∀ m ∈ t.marks, IsAtom m ∧ 0 < rankOf m ∧ ∃ last before, taken = last :: before ∧ rankOf m ≤ rankOf last

theorem all_keep (t : Composing) (c : Char) : (t.keep c).all = c :: t.all := by
  rw [keep]
  split <;> rfl

variable {taken : List Char} {t : Composing} {c : Char}

theorem Keeps.keep (h : t.Keeps taken) (hc : IsAtom c) (horder : InOrder (c :: taken)) :
    (t.keep c).Keeps (c :: taken) := by
  have hback : sortedBack ((t.keep c).all.reverse.flatMap apart) = c :: taken := by
    rw [all_keep, List.reverse_cons, List.flatMap_append, List.flatMap_singleton, apart_atom hc, sortedBack_concat,
      h.back, horder.putMark_eq]
  rw [Composing.keep] at hback ⊢
  split
  · next hzero =>
    rw [if_pos hzero] at hback
    exact ⟨hback, .nil, nofun⟩
  · next hmark =>
    rw [if_neg hmark] at hback
    have hpos : 0 < rankOf c := Nat.pos_of_ne_zero (by simpa using hmark)
    have hbelow : ∀ m ∈ t.marks, rankOf m ≤ rankOf c := fun m hm => by
      obtain ⟨-, -, last, before, rfl, hle⟩ := h.marks m hm
      have hstep := horder.1
      omega
    refine ⟨hback, List.pairwise_cons.mpr ⟨hbelow, h.ordered⟩, fun m hm => ?_⟩
    rcases List.mem_cons.mp hm with rfl | hm
    · exact ⟨hc, hpos, m, taken, rfl, Nat.le_refl _⟩
    · exact ⟨(h.marks m hm).1, (h.marks m hm).2.1, c, taken, rfl, hbelow m hm⟩

/-- A letter takes up a character: the marks in between have lower ranks. -/
theorem Keeps.combine (h : t.Keeps taken) {a b : Char} (hletter : t.letter = some a)
    (hreach : t.reaches (rankOf c) = true) (hmade : made? a c = some b) (horder : InOrder (c :: taken)) :
    Keeps (c :: taken) { t with letter := some b } := by
  have hlow : ∀ m ∈ t.marks, rankOf m < rankOf c := by
    have hpairs := h.ordered
    intro m hm
    rw [reaches] at hreach
    split at hreach
    · next hnone =>
      rw [hnone] at hm
      cases hm
    · next top rest hmarks =>
      rw [hmarks] at hm hpairs
      have htop : rankOf top < rankOf c := by simpa using hreach
      rcases List.mem_cons.mp hm with rfl | hm
      · exact htop
      · exact Nat.lt_of_le_of_lt ((List.pairwise_cons.mp hpairs).1 m hm) htop
  have hatoms : t.marks.reverse.flatMap apart = t.marks.reverse := by
    have hself : ∀ m ∈ t.marks.reverse, apart m = [m] := fun m hm =>
      apart_atom (h.marks m (List.mem_reverse.mp hm)).1
    rw [List.flatMap_congr hself, List.flatMap_singleton']
  refine ⟨?_, h.ordered, fun m hm => ⟨(h.marks m hm).1, (h.marks m hm).2.1, c, taken, rfl, Nat.le_of_lt (hlow m hm)⟩⟩
  have hback := h.back
  simp only [all, hletter, Option.toList_some, List.reverse_append, List.reverse_cons, List.reverse_nil,
    List.nil_append, List.flatMap_append, List.flatMap_singleton, hatoms] at hback ⊢
  rw [(apart_made hmade).1, ← List.append_assoc, sortedBack_append, ← List.append_assoc, sortedBack_concat,
    foldl_putMark_comm fun m hm => ⟨(h.marks m (List.mem_reverse.mp hm)).2.1, hlow m (List.mem_reverse.mp hm)⟩]
  rw [← List.append_assoc, sortedBack_append] at hback
  rw [hback, horder.putMark_eq]

theorem Keeps.take (h : t.Keeps taken) (hc : IsAtom c) (horder : InOrder (c :: taken)) :
    (t.take c).Keeps (c :: taken) := by
  rw [Composing.take]
  split
  · exact h.keep hc horder
  · next a hletter =>
    split
    · next hreach =>
      split
      · next b hmade => exact h.combine hletter hreach hmade horder
      · exact h.keep hc horder
    · exact h.keep hc horder

end Composing

/-- Text on the way, from characters in order. -/
def composing (cs : List Char) : Composing := cs.foldl Composing.take ⟨[], none, []⟩

theorem composing_keeps (cs : List Char) (hatoms : ∀ c ∈ cs, IsAtom c) (horder : InOrder cs.reverse) :
    (composing cs).Keeps cs.reverse := by
  induction cs using List.reverseRecOn with
  | nil => exact ⟨rfl, .nil, nofun⟩
  | append_singleton cs c ih =>
    rw [List.reverse_append, List.reverse_singleton, List.singleton_append] at horder ⊢
    have hbefore := ih (fun x hx => hatoms x (List.mem_append_left _ hx)) horder.tail
    rw [composing, List.foldl_append]
    exact hbefore.take (hatoms c (by simp)) horder

theorem composed_eq (cs : List Char) :
    composed cs = (composing (sortedBack (cs.flatMap apart)).reverse).all.reverse := rfl

/-- The sorted parts of a text come out of the text composed. -/
theorem sortedBack_composed (cs : List Char) :
    sortedBack ((composed cs).flatMap apart) = sortedBack (cs.flatMap apart) := by
  have hatoms : ∀ c ∈ (sortedBack (cs.flatMap apart)).reverse, IsAtom c := fun c hc => by
    rw [List.mem_reverse, mem_sortedBack] at hc
    obtain ⟨x, -, hx⟩ := List.mem_flatMap.mp hc
    exact apart_atoms x c hx
  have horder := sortedBack_inOrder (cs.flatMap apart)
  rw [← List.reverse_reverse (sortedBack _)] at horder
  have hkeeps := (composing_keeps _ hatoms horder).back
  rwa [List.reverse_reverse] at hkeeps

theorem composed_composed (cs : List Char) : composed (composed cs) = composed cs := by
  rw [composed_eq, sortedBack_composed]
  rfl

/-! ### Characters of composed text -/

/-- What holds of the characters of a text holds of the text composed if characters and their parts have it
    in common. -/
theorem composed_closed {P : Char → Prop} (htable : ∀ t ∈ allCompositions, P t.made ↔ P t.first ∧ P t.second)
    (hhangul : ∀ c : Char, inRanges hangulRanges c.toNat = true → P c) {cs : List Char} (h : ∀ c ∈ cs, P c) :
    ∀ c ∈ composed cs, P c := by
  have hsorted : ∀ c ∈ (sortedBack (cs.flatMap apart)).reverse, P c := fun c hc => by
    rw [List.mem_reverse, mem_sortedBack] at hc
    obtain ⟨x, hx, hc⟩ := List.mem_flatMap.mp hc
    exact takenApart_closed htable hhangul _ x (h x hx) c hc
  have htake (t : Composing) (c : Char) (ht : ∀ x ∈ t.all, P x) (hc : P c) : ∀ x ∈ (t.take c).all, P x := by
    have hkeep : ∀ x ∈ (t.keep c).all, P x := fun x hx => by
      rw [Composing.all_keep] at hx
      exact (List.mem_cons.mp hx).elim (· ▸ hc) (ht x)
    rw [Composing.take]
    split
    · exact hkeep
    · next a hletter =>
      split
      · split
        · next b hb =>
          intro x hx
          simp only [Composing.all, hletter, Option.toList_some, List.mem_append, List.mem_singleton] at ht hx
          rcases hx with (hx | rfl) | hx
          · exact ht x (.inl (.inl hx))
          · exact made_closed htable hhangul hb (ht a (.inl (.inr rfl))) hc
          · exact ht x (.inr hx)
        · exact hkeep
      · exact hkeep
  have hall : ∀ (cs : List Char) (t : Composing), (∀ c ∈ cs, P c) → (∀ x ∈ t.all, P x) →
      ∀ x ∈ (cs.foldl Composing.take t).all, P x := by
    intro cs
    induction cs with
    | nil => exact fun _ _ ht => ht
    | cons c cs ih =>
      intro t hcs ht
      exact ih (t.take c) (fun x hx => hcs x (.tail _ hx)) (htake t c ht (hcs c (.head _)))
  intro c hc
  rw [composed_eq, List.mem_reverse] at hc
  exact hall _ _ hsorted (fun x hx => absurd hx List.not_mem_nil) c hc

/-! ### What takes no part -/

section inert

variable {c : Char} (h : inRanges inertRanges c.toNat = true)

include h

theorem inert_bounds : c.toNat ≤ 127 ∨ (0x20000 ≤ c.toNat ∧ c.toNat ≤ 0x2A6DF) := by
  simpa [inRanges, inertRanges] using h

theorem inert_isAtom : IsAtom c := by
  have hbounds := inert_bounds h
  refine ⟨hangulParts?_eq_none (by omega), parts?_eq_none ?_⟩
  rw [inRanges_append, h, Bool.true_or]

theorem inert_rank : rankOf c = 0 := by
  have hmarks : ∀ r ∈ rankRuns, 127 < r.1 ∧ r.2.1 < 0x20000 := by decide +kernel
  have hbounds := inert_bounds h
  have hnone : (rankRuns.find? fun r => r.1 ≤ c.toNat && c.toNat ≤ r.2.1) = none := by
    rw [List.find?_eq_none]
    intro r hr
    have hrun := hmarks r hr
    simp only [Bool.and_eq_true, decide_eq_true_eq]
    omega
  rw [rankOf, hnone]
  rfl

/-- It is not taken up. -/
theorem inert_made (a : Char) : made? a c = none := by
  have hbounds := inert_bounds h
  cases hmade : made? a c with
  | none => rfl
  | some m =>
    rcases mem_of_made? hmade with hsyllable | ht
    · rw [hangulSyllable?] at hsyllable
      split at hsyllable
      · next hparts =>
        simp only [Bool.and_eq_true, decide_eq_true_eq] at hparts
        omega
      · split at hsyllable
        · next hparts =>
          simp only [Bool.and_eq_true, decide_eq_true_eq] at hparts
          omega
        · cases hsyllable
    · have hout := second_apart ht
      rw [inRanges_append, h, Bool.true_or] at hout
      cases hout

theorem inert_take (t : Composing) : t.take c = ⟨t.all, some c, []⟩ := by
  have hkeep : t.keep c = ⟨t.all, some c, []⟩ := by rw [Composing.keep, inert_rank h, if_pos (beq_self_eq_true 0)]
  rw [Composing.take]
  split
  · exact hkeep
  · rw [inert_made h]
    split <;> exact hkeep

theorem inert_putMark (before : List Char) : putMark c before = c :: before := by
  cases before with
  | nil => rfl
  | cons d before => rw [putMark_cons, inert_rank h, if_neg (by omega)]

end inert

section inert

variable {cs : List Char} (h : ∀ c ∈ cs, inRanges inertRanges c.toNat = true)

include h

theorem sortedBack_inert : sortedBack cs = cs.reverse := by
  induction cs using List.reverseRecOn with
  | nil => rfl
  | append_singleton cs c ih =>
    rw [sortedBack_concat, ih fun x hx => h x (List.mem_append_left _ hx), inert_putMark (h c (by simp)),
      List.reverse_append]
    rfl

theorem composing_inert : (composing cs).all = cs.reverse := by
  induction cs using List.reverseRecOn with
  | nil => rfl
  | append_singleton cs c ih =>
    have hbefore := ih fun x hx => h x (List.mem_append_left _ hx)
    rw [composing] at hbefore ⊢
    rw [List.foldl_append, List.foldl_cons, List.foldl_nil, inert_take (h c (by simp)), List.reverse_append]
    exact congrArg (c :: ·) hbefore

/-- Text of ASCII and ideographs is composed. -/
theorem composed_inert : composed cs = cs := by
  have hapart : cs.flatMap apart = cs := by
    rw [List.flatMap_congr fun c hc => apart_atom (inert_isAtom (h c hc)), List.flatMap_singleton']
  rw [composed_eq, hapart, sortedBack_inert h, List.reverse_reverse, composing_inert h, List.reverse_reverse]

end inert

/-! ### Pieces between dots -/

theorem putMark_behind (c : Char) {d : Char} (hd : rankOf d = 0) (before : List Char) : ∀ cs : List Char,
    putMark c (cs ++ d :: before) = putMark c cs ++ d :: before
  | [] => by rw [List.nil_append, putMark_cons, if_neg (by omega)]; rfl
  | x :: cs => by
    rw [List.cons_append, putMark_cons, putMark_cons, putMark_behind c hd before cs]
    split <;> rfl

theorem sortedBack_cut {d : Char} (hd : inRanges inertRanges d.toNat = true) (xs ys : List Char) :
    sortedBack (xs ++ d :: ys) = sortedBack ys ++ d :: sortedBack xs := by
  induction ys using List.reverseRecOn with
  | nil =>
    rw [sortedBack_concat, inert_putMark hd]
    rfl
  | append_singleton ys c ih =>
    rw [← List.cons_append, ← List.append_assoc, sortedBack_concat, ih, putMark_behind c (inert_rank hd),
      sortedBack_concat]

/-- Text on the way by itself, and the same behind a dot and what stands before it. -/
inductive Composing.Behind (before : List Char) : Composing → Composing → Prop
  | letter (done : List Char) (a : Char) (marks : List Char) :
    Behind before ⟨done, some a, marks⟩ ⟨done ++ '.' :: before, some a, marks⟩
  | dot (marks : List Char) : Behind before ⟨[], none, marks⟩ ⟨before, some '.', marks⟩

/-- A dot takes nothing up. -/
theorem made_dot (b : Char) : made? '.' b = none := by
  cases hmade : made? '.' b with
  | none => rfl
  | some m =>
    rcases mem_of_made? hmade with hsyllable | ht
    · exact absurd hsyllable (by simp [hangulSyllable?, hangulStart])
    · exact absurd rfl (first_ne_dot ht)

namespace Composing.Behind

variable {before : List Char} {t t' : Composing}

theorem all (h : Behind before t t') : t'.all = t.all ++ '.' :: before := by
  cases h <;> simp [Composing.all]

theorem keep (h : Behind before t t') (c : Char) : Behind before (t.keep c) (t'.keep c) := by
  have hall := h.all
  rw [Composing.keep, Composing.keep, hall]
  split
  · exact .letter t.all c []
  · cases h with
    | letter done a marks => exact .letter done a (c :: marks)
    | dot marks => exact .dot (c :: marks)

theorem take (h : Behind before t t') (c : Char) : Behind before (t.take c) (t'.take c) := by
  have hkeep := h.keep c
  cases h with
  | letter done a marks =>
    have hreaches : Composing.reaches ⟨done ++ '.' :: before, some a, marks⟩ = Composing.reaches ⟨done, some a, marks⟩ :=
      rfl
    simp only [Composing.take, hreaches]
    split
    · split
      · exact .letter done _ marks
      · exact hkeep
    · exact hkeep
  | dot marks =>
    simp only [Composing.take, made_dot]
    split <;> exact hkeep

theorem foldl (cs : List Char) : ∀ {t t' : Composing}, Behind before t t' →
    Behind before (cs.foldl Composing.take t) (cs.foldl Composing.take t') := by
  induction cs with
  | nil => exact fun h => h
  | cons c cs ih => exact fun h => ih (h.take c)

end Composing.Behind

theorem composed_cut (xs ys : List Char) : composed (xs ++ '.' :: ys) = composed xs ++ '.' :: composed ys := by
  have hdot : inRanges inertRanges '.'.toNat = true := by decide
  have hfront (cs : List Char) : (composing cs).take '.' = ⟨(composing cs).all, some '.', []⟩ := inert_take hdot _
  have hstart : Composing.Behind (composing (sortedBack (xs.flatMap apart)).reverse).all _ _ := .dot []
  have hbehind := hstart.foldl (sortedBack (ys.flatMap apart)).reverse
  have hall := hbehind.all
  rw [← hfront] at hall
  rw [composed_eq, composed_eq xs, composed_eq ys, List.flatMap_append, List.flatMap_cons,
    apart_atom (inert_isAtom hdot), List.singleton_append, sortedBack_cut hdot, List.reverse_append, List.reverse_cons,
    List.append_assoc, List.singleton_append, composing, List.foldl_append, List.foldl_cons]
  refine (congrArg List.reverse hall).trans ?_
  rw [List.reverse_append, List.reverse_cons, List.append_assoc]
  rfl

/-- The pieces between the dots of composed text are composed. -/
theorem composed_piece {cs : List Char} (h : composed cs = cs) : ∀ s ∈ cs.splitOn '.', composed s = s := by
  have hnoDot : ∀ s : List Char, '.' ∉ s → '.' ∉ composed s := fun s hs hdot => by
    refine composed_closed (P := (· ≠ '.')) (fun t ht => ?_) (fun c hc hsame => ?_) (fun c hc hsame => ?_) '.' hdot rfl
    · have hmade : t.made ≠ '.' := fun hsame => by
        have hout := (made_apart ht).1
        rw [hsame] at hout
        cases hout
      have hsecond : t.second ≠ '.' := fun hsame => by
        have hout := second_apart ht
        rw [hsame] at hout
        cases hout
      simp [hmade, hsecond, first_ne_dot ht]
    · rw [hsame] at hc
      cases hc
    · exact hs (hsame ▸ hc)
  have hjoin : ∀ parts : List (List Char), parts ≠ [] →
      composed (['.'].intercalate parts) = ['.'].intercalate (parts.map composed) := by
    intro parts
    induction parts with
    | nil => exact fun hne => absurd rfl hne
    | cons s parts ih =>
      intro _
      cases parts with
      | nil => simp
      | cons s' parts =>
        have ih := ih nofun
        rw [List.map_cons] at ih
        rw [List.map_cons, List.map_cons, List.intercalate_cons_cons, List.intercalate_cons_cons, List.append_assoc,
          List.append_assoc, List.singleton_append, List.singleton_append, composed_cut, ih]
  have hparts := hjoin (cs.splitOn '.') (List.splitOn_ne_nil '.' cs)
  rw [List.intercalate_splitOn, h] at hparts
  have hsame : cs.splitOn '.' = (cs.splitOn '.').map composed := by
    refine (congrArg (List.splitOn '.') hparts).trans (List.splitOn_intercalate '.' (fun l hl => ?_) (by simp))
    obtain ⟨s, hs, rfl⟩ := List.mem_map.mp hl
    exact hnoDot s fun hdot => (mem_of_splitOn hs '.' hdot).2 rfl
  intro s hs
  exact List.map_inj_left.mp (hsame.symm.trans (List.map_id _).symm) s hs

end Courier.Text
