import Mathlib.Algebra.Group.Nat.Defs
import Courier.Proofs.Cut
import Courier.Url.Host

/-! Addresses are read back.

    An address of four is written as four decimal numbers, an address of eight as pieces in hexadecimal
    with the first longest run of zeros left out. -/

namespace Courier.Url

/-! ### Digits -/

theorem mem_toDigits {base : Nat} (h : 1 < base) (n : Nat) : ∀ c ∈ Nat.toDigits base n, ∃ d < base, c = Nat.digitChar d := by
  induction n using Nat.strongRecOn with
  | _ n ih =>
    rw [Nat.toDigits_eq_if h]
    split
    · next hlast => simpa using ⟨n, hlast, rfl⟩
    · next hmore =>
      intro c hc
      rcases List.mem_append.mp hc with hmem | hmem
      · exact ih (n / base) (Nat.div_lt_self (by omega) h) c hmem
      · exact ⟨n % base, Nat.mod_lt _ (by omega), List.mem_singleton.mp hmem⟩

/-- The digits of a number make this number. -/
theorem numberIn_toDigits {base : Nat} (h : 1 < base) (hhex : base ≤ 16) (n : Nat) :
    numberIn base (Nat.toDigits base n) = some n := by
  have hvalue : ∀ d < 16, hexValue? (Nat.digitChar d) = some d := by decide
  induction n using Nat.strongRecOn with
  | _ n ih =>
    rw [Nat.toDigits_eq_if h]
    split
    · next hlast => simp [numberIn, hvalue n (by omega), hlast]
    · next hmore =>
      have hbefore := ih (n / base) (Nat.div_lt_self (by omega) h)
      have hmod : n % base < base := Nat.mod_lt _ (by omega)
      have hwhole : n / base * base + n % base = n := by
        rw [Nat.mul_comm]
        exact Nat.div_add_mod n base
      rw [numberIn] at hbefore ⊢
      rw [List.foldlM_append, hbefore]
      simp [hvalue (n % base) (by omega), hmod, hwhole]

/-! ### Addresses of four -/

theorem foldl_lt (ds : List Nat) : ∀ n, (∀ d ∈ ds, d ≤ 255) →
    ds.foldl (fun n d => n * 256 + d) n < (n + 1) * 256 ^ ds.length := by
  induction ds with
  | nil =>
    intro n _
    simp
  | cons d ds ih =>
    intro n hds
    have hd := hds d List.mem_cons_self
    refine Nat.lt_of_lt_of_le (ih (n * 256 + d) fun d' hd' => hds d' (.tail _ hd')) ?_
    rw [List.length_cons, Nat.pow_succ', ← Nat.mul_assoc]
    exact Nat.mul_le_mul_right _ (by omega)

theorem ipv4?_eq_some {cs : List Char} {a : Nat} : ipv4? cs = some a ↔ (domainParts cs).length ≤ 4 ∧
    ∃ firsts last, (domainParts cs).mapM ipv4Part = some (firsts ++ [last]) ∧ last < twoTo (8 * (4 - firsts.length)) ∧
      (∀ d ∈ firsts, d ≤ 255) ∧
      firsts.foldl (fun n d => n * 256 + d) 0 * twoTo (8 * (4 - firsts.length)) + last = a := by
  simp only [ipv4?, Option.bind_eq_bind, failure_bind, Option.ite_none_left_eq_some, Option.bind_eq_some_iff, Nat.not_lt]
  refine and_congr_right fun hfew => ?_
  constructor
  · rintro ⟨numbers, hnumbers, h⟩
    split at h
    · cases h
    · next last firsts hreverse =>
      simp only [Option.ite_none_left_eq_some, Option.pure_def, Option.some.injEq] at h
      obtain ⟨hlast, hfirsts, rfl⟩ := h
      refine ⟨firsts.reverse, last, ?_, ?_, ?_, ?_⟩
      · rw [hnumbers, ← List.reverse_cons, ← hreverse, List.reverse_reverse]
      · simpa using hlast
      · simpa using hfirsts
      · simp
  · rintro ⟨firsts, last, hnumbers, hlast, hfirsts, rfl⟩
    refine ⟨_, hnumbers, ?_⟩
    rw [List.reverse_append, List.reverse_singleton, List.singleton_append]
    simp
    exact ⟨hlast, hfirsts⟩

theorem ipv4?_lt {cs : List Char} {a : Nat} (h : ipv4? cs = some a) : a < twoTo 32 := by
  obtain ⟨hfew, firsts, last, hnumbers, hlast, hfirsts, rfl⟩ := ipv4?_eq_some.mp h
  have hlength := congrArg List.length (mapM_eq_some_iff.mp hnumbers)
  simp only [List.length_map, List.length_append, List.length_singleton] at hlength
  have hhigh := foldl_lt firsts 0 hfirsts
  obtain hk | hk | hk | hk : firsts.length = 0 ∨ firsts.length = 1 ∨ firsts.length = 2 ∨ firsts.length = 3 := by omega
  all_goals
    rw [hk] at hhigh hlast ⊢
    simp [twoTo] at *
    omega

/-- The numbers of an address of four. -/
def octets (a : Nat) : List Nat := [a / twoTo 24, a / twoTo 16 % 256, a / 256 % 256, a % 256]

theorem octets_lt {a : Nat} (h : a < twoTo 32) : ∀ d ∈ octets a, d < 256 := by
  simp only [octets, twoTo, Nat.pow_eq, List.forall_mem_cons, List.not_mem_nil, false_implies, implies_true, and_true]
    at h ⊢
  omega

theorem domainParts_eq {cs : List Char} {parts : List (List Char)} (h : cs.splitOn '.' = parts)
    (hlast : parts.getLast? ≠ some []) : domainParts cs = parts := by
  rw [domainParts, cutAt, h]
  split
  · next rest hreverse =>
    rw [← List.head?_reverse, hreverse] at hlast
    exact absurd rfl hlast
  · exact List.reverse_reverse parts

theorem splitOn_ipv4Text (a : Nat) : (ipv4Text a).toList.splitOn '.' = (octets a).map (Nat.toDigits 10) := by
  have hdot : ∀ d < 10, Nat.digitChar d ≠ '.' := by decide
  have hdigits (n : Nat) : (toString n).toList = Nat.toDigits 10 n := Nat.toList_repr
  rw [ipv4Text, String.toList_intercalate, List.map_map]
  simp only [Function.comp_def, hdigits]
  refine List.splitOn_intercalate '.' (fun l hl hc => ?_) (by simp)
  obtain ⟨n, -, rfl⟩ := List.mem_map.mp hl
  obtain ⟨d, hd, hchar⟩ := mem_toDigits (by decide) n _ hc
  exact hdot d hd hchar.symm

theorem domainParts_ipv4Text (a : Nat) : domainParts (ipv4Text a).toList = (octets a).map (Nat.toDigits 10) :=
  domainParts_eq (splitOn_ipv4Text a) (by simp [octets])

theorem ipv4?_ipv4Text {a : Nat} (h : a < twoTo 32) :
    endsInNumber (ipv4Text a).toList = true ∧ ipv4? (ipv4Text a).toList = some a := by
  have hpart : ∀ d < 256, ipv4Part (Nat.toDigits 10 d) = some d := by decide +kernel
  have hlt := octets_lt h
  constructor
  · rw [endsInNumber, domainParts_ipv4Text]
    simp [octets, hpart (a % 256) (by omega)]
  · refine ipv4?_eq_some.mpr ⟨?_, (octets a).take 3, a % 256, ?_, ?_, ?_, ?_⟩
    · simp [domainParts_ipv4Text, octets]
    · rw [domainParts_ipv4Text, mapM_eq_some_iff, List.map_map]
      exact List.map_congr_left fun d hd => hpart d (hlt d hd)
    · simp [octets, twoTo]
      omega
    · exact fun d hd => Nat.le_of_lt_succ (hlt d (List.mem_of_mem_take hd))
    · simp [octets, twoTo]
      omega

/-! ### Addresses of eight -/

/-- Eight pieces of sixteen bits. -/
def IsIpv6 (ps : List Nat) : Prop := ps.length = 8 ∧ ∀ p ∈ ps, p < twoTo 16

theorem foldlM_lt {base : Nat} (cs : List Char) : ∀ {n m : Nat}, (cs.foldlM (fun n c => do
    let d ← hexValue? c
    if d < base then return n * base + d else failure) n : Option Nat) = some m → m < (n + 1) * base ^ cs.length := by
  induction cs with
  | nil =>
    intro n m h
    simp only [List.foldlM_nil, Option.pure_def, Option.some.injEq] at h
    simp [← h]
  | cons c cs ih =>
    intro n m h
    rw [List.foldlM_cons] at h
    obtain ⟨n', hstep, hrest⟩ := Option.bind_eq_some_iff.mp h
    obtain ⟨d, -, hdigit⟩ := Option.bind_eq_some_iff.mp hstep
    split at hdigit
    · next hd =>
      rw [← Option.some.inj hdigit] at hrest
      refine Nat.lt_of_lt_of_le (ih hrest) ?_
      rw [List.length_cons, Nat.pow_succ', ← Nat.mul_assoc]
      refine Nat.mul_le_mul_right _ ?_
      rw [Nat.add_mul]
      omega
    · cases hdigit

theorem piece?_lt {cs : List Char} {n : Nat} (h : piece? cs = some n) : n < twoTo 16 := by
  simp only [piece?, Option.ite_none_left_eq_some, Bool.or_eq_true, decide_eq_true_eq, not_or, Nat.not_lt] at h
  obtain ⟨⟨-, hshort⟩, hnumber⟩ := h
  have hlt := foldlM_lt cs hnumber
  rw [Nat.zero_add, Nat.one_mul] at hlt
  exact Nat.lt_of_lt_of_le hlt (Nat.pow_le_pow_right (by decide) hshort)

theorem octet?_le {cs : List Char} {n : Nat} (h : octet? cs = some n) : n ≤ 255 := by
  simp only [octet?, Option.bind_eq_bind, failure_bind, Option.ite_none_left_eq_some, Option.bind_eq_some_iff] at h
  obtain ⟨-, m, -, hm⟩ := h
  split at hm
  · next hle => exact Option.some.inj hm ▸ hle
  · cases hm

theorem dotted?_lt {cs : List Char} {ns : List Nat} (h : dotted? cs = some ns) : ∀ n ∈ ns, n < twoTo 16 := by
  simp only [dotted?, Option.bind_eq_bind, Option.bind_eq_some_iff] at h
  obtain ⟨numbers, hnumbers, h⟩ := h
  split at h
  · next a b c d =>
    have hle : ∀ n ∈ [a, b, c, d], n ≤ 255 := by
      intro n hn
      obtain ⟨part, -, hpart⟩ := List.mem_map.mp (mapM_eq_some_iff.mp hnumbers ▸ List.mem_map_of_mem hn)
      exact octet?_le hpart
    simp only [List.forall_mem_cons] at hle
    rw [← Option.some.inj h]
    simp [twoTo]
    omega
  · cases h

theorem pieces?_lt (tail : Bool) : ∀ (parts : List (List Char)) (ns : List Nat), pieces? tail parts = some ns →
    ∀ n ∈ ns, n < twoTo 16
  | [], ns, h => by
    rw [← Option.some.inj h]
    nofun
  | [last], ns, h => by
    rw [pieces?] at h
    split at h
    · exact dotted?_lt h
    · obtain ⟨n, hn, rfl⟩ := Option.map_eq_some_iff.mp h
      simpa using piece?_lt hn
  | p :: q :: ps, ns, h => by
    rw [pieces?] at h
    · obtain ⟨n, hn, hrest⟩ := Option.bind_eq_some_iff.mp h
      obtain ⟨ns', hns, hall⟩ := Option.bind_eq_some_iff.mp hrest
      rw [← Option.some.inj hall]
      exact List.forall_mem_cons.mpr ⟨piece?_lt hn, pieces?_lt tail (q :: ps) ns' hns⟩
    · nofun

theorem side?_lt {tail : Bool} {cs : List Char} {ns : List Nat} (h : side? tail cs = some ns) :
    ∀ n ∈ ns, n < twoTo 16 := by
  rw [side?] at h
  split at h
  · rw [← Option.some.inj h]
    nofun
  · exact pieces?_lt tail _ ns h

theorem ipv6?_isIpv6 {cs : List Char} {ps : List Nat} (h : ipv6? cs = some ps) : IsIpv6 ps := by
  rw [ipv6?] at h
  split at h
  · obtain ⟨ns, hns, h⟩ := Option.bind_eq_some_iff.mp h
    split at h
    · next hlength =>
      rw [← Option.some.inj h]
      exact ⟨by simpa using hlength, side?_lt hns⟩
    · cases h
  · next left right _ =>
    simp only [Option.bind_eq_bind, failure_bind, Option.bind_eq_some_iff, Option.ite_none_left_eq_some, Nat.not_le,
      Option.pure_def, Option.some.injEq] at h
    obtain ⟨ls, hls, rs, hrs, hfew, rfl⟩ := h
    refine ⟨?_, fun n hn => ?_⟩
    · simp only [List.length_append, List.length_replicate]
      omega
    · rcases List.mem_append.mp hn with hn | hn
      · rcases List.mem_append.mp hn with hn | hn
        · exact side?_lt hls n hn
        · rw [List.eq_of_mem_replicate hn]
          decide
      · exact side?_lt hrs n hn

/-! ### The zeros that are left out -/

theorem zeroRuns_spec : ∀ (ps : List Nat) (i k : Nat), (zeroRuns ps)[i]? = some k →
    ∃ ls rs, ps = ls ++ List.replicate k 0 ++ rs ∧ ls.length = i
  | [], _, _, h => by simp [zeroRuns] at h
  | p :: ps, i + 1, k, h => by
    obtain ⟨ls, rs, rfl, rfl⟩ := zeroRuns_spec ps i k (by simpa [zeroRuns] using h)
    exact ⟨p :: ls, rs, rfl, rfl⟩
  | p :: ps, 0, k, h => by
    simp only [zeroRuns, List.getElem?_cons_zero, Option.some.injEq] at h
    split at h
    · next hp =>
      rw [beq_iff_eq.mp hp, ← h]
      cases hruns : zeroRuns ps with
      | nil => exact ⟨[], ps, rfl, rfl⟩
      | cons k' _ =>
        obtain ⟨ls, rs, hps, hls⟩ := zeroRuns_spec ps 0 k' (by rw [hruns]; rfl)
        rw [hps, List.length_eq_zero_iff.mp hls]
        exact ⟨[], rs, rfl, rfl⟩
    · exact ⟨[], p :: ps, by simp [← h], rfl⟩

theorem longestZeros_spec {ps : List Nat} {start size : Nat} (h : longestZeros ps = some (start, size)) :
    2 ≤ size ∧ ∃ ls rs, ps = ls ++ List.replicate size 0 ++ rs ∧ ls.length = start := by
  simp only [longestZeros, Option.ite_none_left_eq_some, Nat.not_lt, Option.map_eq_some_iff, Prod.mk.injEq] at h
  obtain ⟨hsize, i, hindex, rfl, rfl⟩ := h
  obtain ⟨hi, hlongest, -⟩ := List.findIdx?_eq_some_iff_getElem.mp hindex
  exact ⟨hsize, zeroRuns_spec ps i _ (by rw [List.getElem?_eq_getElem hi, beq_iff_eq.mp hlongest])⟩

/-! ### Addresses of eight as they are written -/

/-- A piece as it is written. -/
structure IsPiece (cs : List Char) (p : Nat) : Prop where
  reads : piece? cs = some p
  filled : cs ≠ []
  noMark : ':' ∉ cs ∧ '.' ∉ cs

theorem toDigits_isPiece {p : Nat} (h : p < twoTo 16) : IsPiece (Nat.toDigits 16 p) p := by
  have hmark : ∀ d < 16, Nat.digitChar d ≠ ':' ∧ Nat.digitChar d ≠ '.' := by decide
  have hshort : (Nat.toDigits 16 p).length ≤ 4 := (Nat.length_toDigits_le_iff (by decide) (by decide)).mpr h
  have hfilled : Nat.toDigits 16 p ≠ [] := Nat.toDigits_ne_nil
  refine ⟨?_, hfilled, fun hc => ?_, fun hc => ?_⟩
  · rw [piece?, if_neg (by simp [hfilled, hshort])]
    exact numberIn_toDigits (by decide) (by decide) p
  · obtain ⟨d, hd, hchar⟩ := mem_toDigits (by decide) p _ hc
    exact (hmark d hd).1 hchar.symm
  · obtain ⟨d, hd, hchar⟩ := mem_toDigits (by decide) p _ hc
    exact (hmark d hd).2 hchar.symm

/-- Pieces as they are written, with colons between them. -/
def joined (ps : List Nat) : List Char := [':'].intercalate (ps.map (Nat.toDigits 16))

theorem toList_piecesText (ps : List Nat) : (piecesText ps).toList = joined ps := by
  simp [piecesText, joined, String.toList_intercalate, Function.comp_def]

theorem pieces?_joined (tail : Bool) : ∀ (ps : List Nat), (∀ p ∈ ps, p < twoTo 16) →
    pieces? tail (ps.map (Nat.toDigits 16)) = some ps
  | [], _ => rfl
  | [p], h => by
    have hp := toDigits_isPiece (h p (.head _))
    simp [pieces?, hp.reads, hp.noMark.2]
  | p :: q :: ps, h => by
    have ih := pieces?_joined tail (q :: ps) fun p' hp' => h p' (.tail _ hp')
    rw [List.map_cons] at ih
    rw [List.map_cons, List.map_cons, pieces?, (toDigits_isPiece (h p (.head _))).reads, ih]
    · rfl
    · nofun

theorem side?_joined (tail : Bool) {ps : List Nat} (h : ∀ p ∈ ps, p < twoTo 16) : side? tail (joined ps) = some ps := by
  cases ps with
  | nil => rfl
  | cons p ps =>
    have hcut : cutAt ':' (joined (p :: ps)) = (p :: ps).map (Nat.toDigits 16) := by
      refine List.splitOn_intercalate ':' (fun l hl => ?_) (by simp)
      obtain ⟨q, hq, rfl⟩ := List.mem_map.mp hl
      exact (toDigits_isPiece (h q hq)).noMark.1
    have hfilled : (joined (p :: ps)).isEmpty = false := by
      have hp := (toDigits_isPiece (h p (.head _))).filled
      cases ps <;> simp [joined, hp]
    rw [side?, hfilled, if_neg (by decide), hcut, pieces?_joined tail _ h]

theorem joined_first {p : Nat} (hp : p < twoTo 16) (ps : List Nat) : ∃ c cs, joined (p :: ps) = c :: cs ∧ c ≠ ':' := by
  obtain ⟨-, hfilled, hmark, -⟩ := toDigits_isPiece hp
  obtain ⟨c, cs, hcs⟩ := List.exists_cons_of_ne_nil hfilled
  have hc : c ≠ ':' := fun hc => hmark (by rw [hcs, hc]; exact .head _)
  cases ps with
  | nil => exact ⟨c, cs, by simpa [joined] using hcs, hc⟩
  | cons q ps => exact ⟨c, _, by simp only [joined, List.map_cons, List.intercalate_cons_cons, hcs]; rfl, hc⟩

/-- There is no double colon inside a piece, nor across its end. -/
theorem cutGap_piece (rest : List Char) : ∀ {cs : List Char}, ':' ∉ cs →
    cutGap (cs ++ rest) = (cutGap rest).map fun p => (cs ++ p.1, p.2)
  | [], _ => by simp
  | c :: cs, h => by
    obtain ⟨hc, hcs⟩ := not_or.mp (mt List.mem_cons.mpr h)
    rw [List.cons_append, cutGap, cutGap_piece rest hcs, Option.map_map]
    · rfl
    · intro _ hcolon
      exact absurd hcolon.symm hc

theorem cutGap_joined (rest : List Char) : ∀ {ps : List Nat}, (∀ p ∈ ps, p < twoTo 16) →
    cutGap (joined ps ++ rest) = (cutGap rest).map fun p => (joined ps ++ p.1, p.2)
  | [], _ => by simp [joined]
  | [p], h => by
    have hone : joined [p] = Nat.toDigits 16 p := by simp [joined]
    rw [hone, cutGap_piece rest (toDigits_isPiece (h p (.head _))).noMark.1]
  | p :: q :: ps, h => by
    have hp := (toDigits_isPiece (h p (.head _))).noMark.1
    have ih := cutGap_joined rest fun p' (hp' : p' ∈ q :: ps) => h p' (.tail _ hp')
    have hsplit : joined (p :: q :: ps) = Nat.toDigits 16 p ++ ':' :: joined (q :: ps) := by
      simp [joined]
    obtain ⟨c, cs, hfirst, hc⟩ := joined_first (h q (.tail _ (.head _))) ps
    rw [hsplit, List.append_assoc, cutGap_piece _ hp, List.cons_append, cutGap, ih, Option.map_map, Option.map_map]
    · simp [Function.comp_def]
    · intro more _ hcolon
      rw [hfirst, List.cons_append] at hcolon
      exact hc (List.cons.inj hcolon).1

theorem ipv6?_ipv6Text {ps : List Nat} (h : IsIpv6 ps) : ipv6? (ipv6Text ps).toList = some ps := by
  obtain ⟨hlength, hlt⟩ := h
  rw [ipv6Text]
  split
  · have hgap : cutGap (joined ps) = none := by simpa [cutGap] using cutGap_joined [] hlt
    simp [toList_piecesText, ipv6?, hgap, side?_joined true hlt, hlength]
  · next start size hzeros =>
    obtain ⟨hsize, ls, rs, rfl, rfl⟩ := longestZeros_spec hzeros
    have hls : ∀ p ∈ ls, p < twoTo 16 := fun p hp => hlt p (by simp [hp])
    have hrs : ∀ p ∈ rs, p < twoTo 16 := fun p hp => hlt p (by simp [hp])
    simp only [List.length_append, List.length_replicate] at hlength
    have hleft : (ls ++ List.replicate size 0 ++ rs).take ls.length = ls := by simp
    have hright : (ls ++ List.replicate size 0 ++ rs).drop (ls.length + size) = rs := by
      rw [List.drop_append_of_le_length (by simp)]
      simp
    have hgap : cutGap (joined ls ++ [':', ':'] ++ joined rs) = some (joined ls, joined rs) := by
      rw [List.append_assoc, cutGap_joined _ hls]
      simp [cutGap]
    have hzeros : 8 - ls.length - rs.length = size := by omega
    have htext : (piecesText ls ++ "::" ++ piecesText rs).toList = joined ls ++ [':', ':'] ++ joined rs := by
      simp [toList_piecesText]
    rw [hleft, hright, ipv6?, htext, hgap]
    simp only [side?_joined false hls, side?_joined true hrs, Option.bind_eq_bind, Option.bind_some, failure_bind,
      hzeros, Option.pure_def]
    rw [if_neg (by omega)]

end Courier.Url
