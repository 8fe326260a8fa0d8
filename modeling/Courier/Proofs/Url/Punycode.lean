import Mathlib.Tactic.Ring
import Courier.Proofs.Cut
import Courier.Url.Punycode

/-! Labels are read back from their encoding.

    The numbers of an encoding say how far the insertion point has to move. Reading follows writing: after
    each number both know the same characters of the label, and what writing has counted since the last
    insertion is the distance that reading still has to go (`decode_encode`). -/

namespace Courier.Url.Punycode

/-! ### Digits -/

theorem digit?_digitChar {d : Nat} (h : d < 36) : digit? (digitChar d) = some d := by
  have hall : ∀ d < 36, digit? (digitChar d) = some d := by decide
  exact hall d h

/-- Small letters and digits of decimals. -/
def IsDigit (c : Char) : Prop := ('a' ≤ c ∧ c ≤ 'z') ∨ ('0' ≤ c ∧ c ≤ '9')

instance (c : Char) : Decidable (IsDigit c) := inferInstanceAs (Decidable (_ ∨ _))

theorem digitChar_isDigit {d : Nat} (h : d < 36) : IsDigit (digitChar d) := by
  have hall : ∀ d < 36, IsDigit (digitChar d) := by decide
  exact hall d h

theorem IsDigit.ne_hyphen {c : Char} (h : IsDigit c) : c ≠ '-' := by
  rintro rfl
  exact absurd h (by decide)

theorem threshold_bounds (k bias : Nat) : 1 ≤ threshold k bias ∧ threshold k bias ≤ 26 := by
  unfold threshold
  omega

theorem encodeNumber_isDigit (bias k q : Nat) : ∀ c ∈ encodeNumber bias k q, IsDigit c := by
  have hbounds := threshold_bounds k bias
  rw [encodeNumber]
  split
  · intro c hc
    rw [List.mem_singleton.mp hc]
    exact digitChar_isDigit (by omega)
  · intro c hc
    rcases List.mem_cons.mp hc with rfl | hmem
    · have hmod : (q - threshold k bias) % (36 - threshold k bias) < 36 - threshold k bias :=
        Nat.mod_lt _ (by omega)
      exact digitChar_isDigit (by omega)
    · exact encodeNumber_isDigit bias (k + 36) _ c hmem
termination_by q
decreasing_by
  have hle := Nat.div_le_self (q - threshold k bias) (36 - threshold k bias)
  omega

theorem encodeNumber_ne_nil (bias k q : Nat) : encodeNumber bias k q ≠ [] := by
  rw [encodeNumber]
  split <;> simp

/-! ### Numbers -/

/-- What reading comes to when its insertion point has moved to `index`. -/
def Decoding.insert (d : Decoding) (index : Nat) : Option Decoding :=
  let size := d.out.length + 1
  let n := d.n + index / size
  let position := index % size
  if 0x10FFFF < n || (0xD800 ≤ n && n ≤ 0xDFFF) then none
  else some ⟨insertAt (Char.ofNat n) position d.out, n, position + 1, adapt (index - d.before) size (d.before == 0),
    position + 1, 1, 36⟩

/-- The digits of a number are read as the number. -/
theorem foldlM_encodeNumber (rest : List Char) : ∀ (q : Nat) (d : Decoding),
    (encodeNumber d.bias d.k q ++ rest).foldlM Decoding.step d
      = (d.insert (d.index + q * d.weight)).bind fun d => rest.foldlM Decoding.step d := by
  intro q
  induction q using Nat.strongRecOn with
  | _ q ih =>
    intro d
    have hbounds := threshold_bounds d.k d.bias
    rw [encodeNumber]
    split
    · next hlast =>
      have hstep : d.step (digitChar q) = d.insert (d.index + q * d.weight) := by
        simp only [Decoding.step, digit?_digitChar (show q < 36 by omega), Option.bind_eq_bind, Option.bind_some,
          if_pos hlast]
        simp only [Decoding.insert]
        split <;> rfl
      rw [List.cons_append, List.nil_append, List.foldlM_cons, hstep]
      rfl
    · next hmore =>
      generalize ht : threshold d.k d.bias = t at hbounds hmore ⊢
      have hsplit := Nat.mod_add_div (q - t) (36 - t)
      have hmod : (q - t) % (36 - t) < 36 - t := Nat.mod_lt _ (by omega)
      have hdiv := Nat.div_le_self (q - t) (36 - t)
      generalize (q - t) % (36 - t) = r at hsplit hmod ⊢
      generalize hq : (q - t) / (36 - t) = q' at hsplit hdiv ⊢
      have hstep : d.step (digitChar (t + r)) = some
          { d with index := d.index + (t + r) * d.weight, weight := d.weight * (36 - t), k := d.k + 36 } := by
        simp only [Decoding.step, digit?_digitChar (show t + r < 36 by omega), Option.bind_eq_bind, Option.bind_some,
          ht, if_neg (show ¬ t + r < t by omega)]
        rfl
      have hsame : d.index + (t + r) * d.weight + q' * (d.weight * (36 - t)) = d.index + q * d.weight := by
        have hwhole : q = t + r + q' * (36 - t) := by
          rw [Nat.mul_comm q']
          omega
        rw [hwhole]
        ring
      rw [List.cons_append, List.foldlM_cons, hstep]
      refine (ih q' (by omega) { d with
        index := d.index + (t + r) * d.weight, weight := d.weight * (36 - t), k := d.k + 36 }).trans ?_
      simp only [Decoding.insert, hsame]

/-! ### Passing over a label -/

/-- Characters of a label below a code point. -/
def below (m : Nat) (cs : List Char) : List Char := cs.filter fun c => c.toNat < m

/-- Reading has taken the numbers written so far; it knows the characters `known`, and writing has passed
    `seen` of them in the round of the code point `m`. -/
structure Follows (input : List Char) (e : Encoding) (d : Decoding) (m seen : Nat) (known : List Char) : Prop where
  out : d.out = known
  done : e.done = known.length
  bias : d.bias = e.bias
  position : d.before = d.index ∧ d.weight = 1 ∧ d.k = 36
  distance : d.n ≤ m ∧ e.delta + d.index = (m - d.n) * (e.done + 1) + seen
  first : (below 128 input).length ≤ e.done ∧ ((e.done == (below 128 input).length) = (d.before == 0))

/-- The digits written behind `start` are read from the characters of ASCII on. -/
def Reads (input start out : List Char) (d : Decoding) : Prop :=
  ∃ digits, out = start ++ digits ∧ (∀ c ∈ digits, IsDigit c) ∧
    digits.foldlM Decoding.step (.start (below 128 input)) = some d

theorem insertAt_append (c : Char) (ys : List Char) : ∀ xs : List Char,
    insertAt c xs.length (xs ++ ys) = xs ++ c :: ys
  | [] => by cases ys <;> rfl
  | x :: xs => congrArg (x :: ·) (insertAt_append c ys xs)

/-- The insertion point has moved over so many rounds, and within the last one to its place. -/
theorem Follows.insert {input : List Char} {e : Encoding} {d : Decoding} {c : Char} {xs ys : List Char}
    (h : Follows input e d c.toNat xs.length (xs ++ ys)) : d.insert (d.index + e.delta * d.weight) = some
      ⟨xs ++ c :: ys, c.toNat, xs.length + 1, adapt e.delta (e.done + 1) (e.done == (below 128 input).length),
        xs.length + 1, 1, 36⟩ := by
  obtain ⟨hout, hdone, hbias, ⟨hbefore, hweight, hk⟩, ⟨hn, hdelta⟩, hle, hfirst⟩ := h
  have hsize : d.out.length = e.done := by rw [hout, hdone]
  have hseen : xs.length < e.done + 1 := by
    rw [hdone, List.length_append]
    omega
  have hindex : d.index + e.delta = xs.length + (e.done + 1) * (c.toNat - d.n) := by
    rw [Nat.mul_comm, Nat.add_comm d.index, hdelta, Nat.add_comm]
  have hround : (d.index + e.delta) / (e.done + 1) = c.toNat - d.n := by
    rw [hindex, Nat.add_mul_div_left _ _ (Nat.succ_pos _), Nat.div_eq_of_lt hseen, Nat.zero_add]
  have hplace : (d.index + e.delta) % (e.done + 1) = xs.length := by
    rw [hindex, Nat.add_mul_mod_self_left, Nat.mod_eq_of_lt hseen]
  have hvalid : ¬ (0x10FFFF < c.toNat ∨ 0xD800 ≤ c.toNat ∧ c.toNat ≤ 0xDFFF) := by
    have hc := c.valid
    simp only [UInt32.isValidChar, Nat.isValidChar] at hc
    have hsame : c.toNat = c.val.toNat := rfl
    omega
  have hreach : d.n + (c.toNat - d.n) = c.toNat := by omega
  have hmoved : d.index + e.delta - d.before = e.delta := by omega
  simp only [Decoding.insert, hweight, Nat.mul_one, hsize, hround, hplace, hreach, hmoved, hfirst]
  rw [if_neg (by simpa using hvalid), Char.ofNat_toNat, hout, insertAt_append]

/-- The number that stands for a character is written, and read at its place. -/
theorem Follows.emit {input start : List Char} {e : Encoding} {d : Decoding} {c : Char} {xs ys : List Char}
    (h : Follows input e d c.toNat xs.length (xs ++ ys)) (hd : Reads input start e.out d) :
    ∃ d', Follows input (e.step (below 128 input).length c.toNat c) d' c.toNat (xs.length + 1) (xs ++ c :: ys) ∧
      Reads input start (e.step (below 128 input).length c.toNat c).out d' := by
  have hinsert := h.insert
  obtain ⟨-, hdone, hbias, ⟨-, -, hk⟩, -, hle, -⟩ := h
  obtain ⟨digits, hdigits, hascii, hread⟩ := hd
  have hstep : e.step (below 128 input).length c.toNat c = ⟨e.out ++ encodeNumber e.bias 36 e.delta, 0,
      adapt e.delta (e.done + 1) (e.done == (below 128 input).length), e.done + 1⟩ := by
    simp [Encoding.step]
  refine ⟨⟨xs ++ c :: ys, c.toNat, xs.length + 1, adapt e.delta (e.done + 1) (e.done == (below 128 input).length),
    xs.length + 1, 1, 36⟩, ⟨rfl, ?_, ?_, ⟨rfl, rfl, rfl⟩, ⟨Nat.le_refl _, ?_⟩, ?_, ?_⟩,
    digits ++ encodeNumber e.bias 36 e.delta, ?_, ?_, ?_⟩
  · simp only [hstep, hdone, List.length_append, List.length_cons]
    omega
  · rw [hstep]
  · simp [hstep]
  · rw [hstep]
    exact Nat.le_succ_of_le hle
  · have hlater : e.done + 1 ≠ (below 128 input).length := by omega
    simp [hstep, hlater]
  · rw [hstep, hdigits, List.append_assoc]
  · intro x hx
    rcases List.mem_append.mp hx with hmem | hmem
    · exact hascii x hmem
    · exact encodeNumber_isDigit _ _ _ x hmem
  · have hnumber := foldlM_encodeNumber [] e.delta d
    rw [hbias, hk, List.append_nil, hinsert] at hnumber
    rw [List.foldlM_append, hread]
    exact hnumber

/-- A character that is known already is passed. -/
theorem Follows.pass {input : List Char} {e : Encoding} {d : Decoding} {m seen : Nat} {known : List Char}
    (h : Follows input e d m seen known) : Follows input { e with delta := e.delta + 1 } d m (seen + 1) known := by
  obtain ⟨hn, hdelta⟩ := h.distance
  exact { h with distance := ⟨hn, by simp only; omega⟩ }

/-- A round over the label ends, and the next ones up to `m` have nothing to insert. -/
theorem Follows.advance {input : List Char} {e : Encoding} {d : Decoding} {n m : Nat} {known : List Char}
    (h : Follows input e d n 0 known) (hm : n ≤ m) :
    Follows input { e with delta := e.delta + (m - n) * (e.done + 1) } d m 0 known := by
  obtain ⟨hn, hdelta⟩ := h.distance
  refine { h with distance := ⟨Nat.le_trans hn hm, ?_⟩ }
  have hrounds : m - d.n = (m - n) + (n - d.n) := by omega
  simp only [hrounds, Nat.add_mul]
  omega

theorem Follows.finish {input : List Char} {e : Encoding} {d : Decoding} {m : Nat} {known : List Char}
    (h : Follows input e d m known.length known) :
    Follows input { e with delta := e.delta + 1 } d (m + 1) 0 known := by
  obtain ⟨hn, hdelta⟩ := h.distance
  refine { h with distance := ⟨Nat.le_succ_of_le hn, ?_⟩ }
  have hrounds : m + 1 - d.n = (m - d.n) + 1 := by omega
  rw [← h.done] at hdelta
  simp only [hrounds, Nat.add_mul]
  omega

theorem below_cons (n : Nat) (c : Char) (cs : List Char) :
    below n (c :: cs) = if c.toNat < n then c :: below n cs else below n cs := by
  rw [below, List.filter_cons]
  simp only [decide_eq_true_eq]
  rfl

theorem below_concat (n : Nat) (cs : List Char) (c : Char) :
    below n (cs ++ [c]) = if c.toNat < n then below n cs ++ [c] else below n cs := by
  have hone : below n (cs ++ [c]) = below n cs ++ below n [c] := List.filter_append _ _
  rw [hone, below_cons]
  split
  · rfl
  · exact List.append_nil _

/-- A round over the rest of a label, behind what was passed of it. -/
theorem Follows.round {input start : List Char} {m : Nat} : ∀ (rest passed : List Char) {e : Encoding} {d : Decoding},
    Follows input e d m (below (m + 1) passed).length (below (m + 1) passed ++ below m rest) →
    Reads input start e.out d →
    ∃ d', Follows input (rest.foldl (Encoding.step (below 128 input).length m) e) d' m
        (below (m + 1) (passed ++ rest)).length (below (m + 1) (passed ++ rest)) ∧
      Reads input start (rest.foldl (Encoding.step (below 128 input).length m) e).out d'
  | [], passed, e, d, h, hd => ⟨d, by simpa [below] using h, hd⟩
  | c :: rest, passed, e, d, h, hd => by
    have hback : passed ++ c :: rest = passed ++ [c] ++ rest := by simp
    rw [List.foldl_cons, hback]
    rcases Nat.lt_trichotomy c.toNat m with hc | hc | hc
    · -- the character was inserted in an earlier round
      have hstep : e.step (below 128 input).length m c = { e with delta := e.delta + 1 } := by
        rw [Encoding.step, if_pos hc]
      have hle : c.toNat < m + 1 := by omega
      rw [hstep]
      refine round rest (passed ++ [c]) ?_ hd
      have hknown : below (m + 1) (passed ++ [c]) ++ below m rest = below (m + 1) passed ++ below m (c :: rest) := by
        rw [below_concat, if_pos hle, below_cons, if_pos hc, List.append_assoc]
        rfl
      have hseen : (below (m + 1) (passed ++ [c])).length = (below (m + 1) passed).length + 1 := by
        rw [below_concat, if_pos hle, List.length_append]
        rfl
      rw [hknown, hseen]
      exact h.pass
    · subst hc
      have hknown : below c.toNat (c :: rest) = below c.toNat rest := by rw [below_cons, if_neg (Nat.lt_irrefl _)]
      have hpassed : below (c.toNat + 1) (passed ++ [c]) = below (c.toNat + 1) passed ++ [c] := by
        rw [below_concat, if_pos (Nat.lt_succ_self _)]
      rw [hknown] at h
      obtain ⟨d', h', hd'⟩ := h.emit hd
      refine round rest (passed ++ [c]) ?_ hd'
      rw [hpassed, List.length_append, List.append_assoc]
      exact h'
    · have hstep : e.step (below 128 input).length m c = e := by
        have hne : ¬ c.toNat = m := by omega
        rw [Encoding.step, if_neg (by omega), if_neg (by simpa using hne)]
      rw [hstep]
      refine round rest (passed ++ [c]) ?_ hd
      rw [below_concat, if_neg (by omega)]
      rwa [below_cons, if_neg (by omega)] at h

/-- All rounds: in the end the whole label is known. -/
theorem encodeAbove_reads {input start : List Char} : ∀ (ms : List Nat) (n : Nat) {e : Encoding} {d : Decoding},
    ms.Pairwise (· < ·) → (∀ m ∈ ms, n ≤ m) → (∀ c ∈ input, n ≤ c.toNat → c.toNat ∈ ms) →
    Follows input e d n 0 (below n input) → Reads input start e.out d →
    ∃ d', Reads input start (encodeAbove input (below 128 input).length ms n e).out d' ∧ d'.out = input ∧
      d'.weight = 1 ∧ d'.k = 36
  | [], n, e, d, _, _, hall, h, hd => by
    have hlow : ∀ c ∈ input, c.toNat < n := fun c hc =>
      Nat.lt_of_not_le fun hn => absurd (hall c hc hn) List.not_mem_nil
    have hknown : below n input = input := List.filter_eq_self.mpr fun c hc => by simpa using hlow c hc
    exact ⟨d, hd, h.out.trans hknown, h.position.2⟩
  | m :: ms, n, e, d, hsorted, hfrom, hall, h, hd => by
    obtain ⟨hfirst, hsorted⟩ := List.pairwise_cons.mp hsorted
    have hm := hfrom m List.mem_cons_self
    -- no character of the label lies between `n` and `m`
    have hknown : below n input = below m input := List.filter_congr fun c hc => by
      have hgap : n ≤ c.toNat → m ≤ c.toNat := fun hn => by
        rcases List.mem_cons.mp (hall c hc hn) with heq | hmem
        · omega
        · exact Nat.le_of_lt (hfirst _ hmem)
      rw [decide_eq_decide]
      omega
    rw [hknown] at h
    obtain ⟨d', h', hd'⟩ := Follows.round input [] (h.advance hm) hd
    rw [encodeAbove]
    refine encodeAbove_reads ms (m + 1) hsorted (fun m' hm' => hfirst m' hm') (fun c hc hn => ?_) h'.finish hd'
    rcases List.mem_cons.mp (hall c hc (by omega)) with heq | hmem
    · omega
    · exact hmem

/-! ### Labels -/

theorem mem_insertOnce {n x : Nat} : ∀ {ms : List Nat}, x ∈ insertOnce n ms ↔ x = n ∨ x ∈ ms
  | [] => by simp [insertOnce]
  | m :: ms => by
    rw [insertOnce]
    split
    · simp
    · split
      · next heq => simp [beq_iff_eq.mp heq]
      · rw [List.mem_cons, mem_insertOnce, List.mem_cons, or_left_comm]

theorem insertOnce_sorted {n : Nat} : ∀ {ms : List Nat}, ms.Pairwise (· < ·) → (insertOnce n ms).Pairwise (· < ·)
  | [], _ => List.pairwise_singleton _ _
  | m :: ms, h => by
    obtain ⟨hfirst, hms⟩ := List.pairwise_cons.mp h
    rw [insertOnce]
    split
    · next hn => exact List.pairwise_cons.mpr ⟨fun x hx => (List.mem_cons.mp hx).elim (· ▸ hn)
        fun hmem => Nat.lt_trans hn (hfirst x hmem), h⟩
    · next hn =>
      split
      · exact h
      · next hne =>
        refine List.pairwise_cons.mpr ⟨fun x hx => ?_, insertOnce_sorted hms⟩
        rcases mem_insertOnce.mp hx with rfl | hmem
        · have hne' : x ≠ m := by simpa using hne
          omega
        · exact hfirst x hmem

/-- The characters above ASCII, in order. -/
theorem above_sorted (cs : List Char) :
    (cs.foldr (fun c ms => insertOnce c.toNat ms) []).Pairwise (· < ·) ∧
      ∀ n, n ∈ cs.foldr (fun c ms => insertOnce c.toNat ms) [] ↔ ∃ c ∈ cs, c.toNat = n := by
  induction cs with
  | nil => exact ⟨.nil, by simp⟩
  | cons c cs ih =>
    refine ⟨insertOnce_sorted ih.1, fun n => ?_⟩
    rw [List.foldr_cons, mem_insertOnce, ih.2]
    simp [eq_comm]

/-- An encoding begins with the characters of ASCII. -/
def opening (input : List Char) : List Char := if (below 128 input).isEmpty then [] else below 128 input ++ ['-']

theorem encode_reads (input : List Char) : ∃ d, Reads input (opening input) (encode input) d ∧ d.out = input ∧
    d.weight = 1 ∧ d.k = 36 := by
  obtain ⟨hsorted, hmem⟩ := above_sorted (input.filter fun c => 128 ≤ c.toNat)
  refine encodeAbove_reads _ 128 hsorted (fun m hm => ?_) (fun c hc hn => (hmem _).mpr ⟨c, by simpa using ⟨hc, hn⟩, rfl⟩)
    ⟨rfl, rfl, rfl, ⟨rfl, rfl, rfl⟩, ⟨Nat.le_refl _, by simp [Decoding.start]⟩, Nat.le_refl _, by simp [Decoding.start, below]⟩
    ⟨[], by simp [opening, below], nofun, rfl⟩
  obtain ⟨c, hc, rfl⟩ := (hmem m).mp hm
  simpa using (List.mem_filter.mp hc).2

/-- A label is read back. -/
theorem decode_encode (input : List Char) : decode (encode input) = some input := by
  obtain ⟨d, ⟨digits, hout, hdigits, hread⟩, hlabel, hweight, hk⟩ := encode_reads input
  have hnoHyphen : ∀ c ∈ digits.reverse, (c != '-') = true := fun c hc => by
    simpa using (hdigits c (List.mem_reverse.mp hc)).ne_hyphen
  have hspan : (encode input).reverse.span (· != '-') = (digits.reverse, (opening input).reverse) := by
    rw [hout, List.reverse_append]
    refine span_append hnoHyphen fun y hy => ?_
    rw [opening] at hy
    split at hy
    · cases hy
    · have hhyphen : '-' = y := by simpa using hy
      simp [← hhyphen]
  have hbasic : ((opening input).reverse.drop 1).reverse = below 128 input := by
    rw [opening]
    split
    · next hnone => simpa using (List.isEmpty_iff.mp hnone).symm
    · simp
  simp only [decode, hspan, hbasic, List.reverse_reverse, hread, hweight, hk, hlabel, Option.bind_eq_bind,
    Option.bind_some]
  rfl

/-- The characters of an encoding. -/
theorem mem_encode {input : List Char} {c : Char} (h : c ∈ encode input) :
    (c ∈ input ∧ c.toNat < 128) ∨ c = '-' ∨ IsDigit c := by
  obtain ⟨d, ⟨digits, hout, hdigits, -⟩, -⟩ := encode_reads input
  rw [hout, opening] at h
  rcases List.mem_append.mp h with hmem | hmem
  · split at hmem
    · cases hmem
    · rcases List.mem_append.mp hmem with hmem | hmem
      · obtain ⟨hc, hascii⟩ := List.mem_filter.mp hmem
        exact .inl ⟨hc, by simpa using hascii⟩
      · exact .inr (.inl (List.mem_singleton.mp hmem))
  · exact .inr (.inr (hdigits c hmem))

/-- Unless a label is of ASCII alone, digits end its encoding. -/
theorem encode_getLast {input : List Char} (h : ∃ c ∈ input, 128 ≤ c.toNat) : (encode input).getLast? ≠ some '-' := by
  obtain ⟨d, ⟨digits, hout, hdigits, hread⟩, hlabel, -⟩ := encode_reads input
  have hsome : digits ≠ [] := by
    rintro rfl
    obtain ⟨c, hc, hhigh⟩ := h
    rw [List.foldlM_nil] at hread
    rw [← hlabel, ← Option.some.inj hread] at hc
    have hlow := (List.mem_filter.mp hc).2
    simp only [decide_eq_true_eq] at hlow
    omega
  intro hlast
  rw [hout, List.getLast?_append, List.getLast?_eq_some_getLast hsome] at hlast
  exact (hdigits _ (List.getLast_mem hsome)).ne_hyphen (Option.some.inj hlast)

/-! ### Long encodings -/

/-- A distance of two digits is less than this, whatever the bias is. -/
def threeDigits : Nat := 936

theorem encodeNumber_length {bias k q : Nat} (h : threeDigits ≤ q) : 3 ≤ (encodeNumber bias k q).length := by
  have hfirst := threshold_bounds k bias
  have hsecond := threshold_bounds (k + 36) bias
  have hmore : 26 ≤ (q - threshold k bias) / (36 - threshold k bias) := by
    rw [Nat.le_div_iff_mul_le (by omega)]
    unfold threeDigits at h
    omega
  rw [encodeNumber, if_neg (by unfold threeDigits at h; omega), encodeNumber, if_neg (by omega), List.length_cons,
    List.length_cons]
  have hthird := List.length_pos_iff.mpr (encodeNumber_ne_nil bias (k + 36 + 36)
    (((q - threshold k bias) / (36 - threshold k bias) - threshold (k + 36) bias) / (36 - threshold (k + 36) bias)))
  omega

/-- An encoding only grows. -/
theorem step_grows (basic m : Nat) (e : Encoding) (c : Char) :
    e.out.length ≤ (e.step basic m c).out.length ∧ e.done ≤ (e.step basic m c).done := by
  rw [Encoding.step]
  split
  · exact ⟨Nat.le_refl _, Nat.le_refl _⟩
  · split
    · simp
    · exact ⟨Nat.le_refl _, Nat.le_refl _⟩

theorem foldl_grows (basic m : Nat) : ∀ (cs : List Char) (e : Encoding),
    e.out.length ≤ (cs.foldl (Encoding.step basic m) e).out.length ∧ e.done ≤ (cs.foldl (Encoding.step basic m) e).done
  | [], _ => ⟨Nat.le_refl _, Nat.le_refl _⟩
  | c :: cs, e => by
    have hstep := step_grows basic m e c
    have hrest := foldl_grows basic m cs (e.step basic m c)
    exact ⟨Nat.le_trans hstep.1 hrest.1, Nat.le_trans hstep.2 hrest.2⟩

/-- The digits that a distance takes at least. -/
def leastDigits (distance : Nat) : Nat := if threeDigits ≤ distance then 3 else 0

theorem leastDigits_le {bias k distance q : Nat} (h : distance ≤ q) :
    leastDigits distance ≤ (encodeNumber bias k q).length := by
  rw [leastDigits]
  split
  · next hlong => exact encodeNumber_length (Nat.le_trans hlong h)
  · exact Nat.zero_le _

/-- A round over a label that holds its character writes a number. -/
theorem round_grows (basic m : Nat) : ∀ {cs : List Char} (e : Encoding), (∃ c ∈ cs, c.toNat = m) →
    ∀ {distance : Nat}, distance ≤ e.delta →
    e.out.length + leastDigits distance ≤ (cs.foldl (Encoding.step basic m) e).out.length ∧
      e.done + 1 ≤ (cs.foldl (Encoding.step basic m) e).done
  | [], _, ⟨_, hc, _⟩, _, _ => nomatch hc
  | c :: cs, e, hmem, distance, hdistance => by
    rw [List.foldl_cons]
    by_cases hc : c.toNat = m
    · have hstep : e.step basic m c = ⟨e.out ++ encodeNumber e.bias 36 e.delta, 0,
          adapt e.delta (e.done + 1) (e.done == basic), e.done + 1⟩ := by
        simp [Encoding.step, hc]
      have hrest := foldl_grows basic m cs (e.step basic m c)
      have hdigits : leastDigits distance ≤ (encodeNumber e.bias 36 e.delta).length := leastDigits_le hdistance
      rw [hstep] at hrest ⊢
      simp only [List.length_append] at hrest
      omega
    · have hlater : ∃ c ∈ cs, c.toNat = m := by
        obtain ⟨c', hc', hm⟩ := hmem
        rcases List.mem_cons.mp hc' with rfl | hc'
        · exact absurd hm hc
        · exact ⟨c', hc', hm⟩
      have hkeeps : (e.step basic m c).out = e.out ∧ (e.step basic m c).done = e.done ∧
          e.delta ≤ (e.step basic m c).delta := by
        rw [Encoding.step]
        split
        · exact ⟨rfl, rfl, Nat.le_succ _⟩
        · rw [if_neg (by simpa using hc)]
          exact ⟨rfl, rfl, Nat.le_refl _⟩
      have ih := round_grows basic m (e.step basic m c) hlater (Nat.le_trans hdistance hkeeps.2.2)
      rw [hkeeps.1, hkeeps.2.1] at ih
      exact ih

/-- The digits that the characters above ASCII take at least, in order. -/
def leastLength : Nat → Nat → List Nat → Nat
  | _, _, [] => 0
  | n, done, m :: ms => leastDigits ((m - n) * (done + 1)) + leastLength (m + 1) (done + 1) ms

theorem leastLength_mono : ∀ (ms : List Nat) (n : Nat) {done done' : Nat}, done ≤ done' →
    leastLength n done ms ≤ leastLength n done' ms
  | [], _, _, _, _ => Nat.le_refl _
  | m :: ms, n, done, done', h => by
    have hdigits : leastDigits ((m - n) * (done + 1)) ≤ leastDigits ((m - n) * (done' + 1)) := by
      have hdistance : (m - n) * (done + 1) ≤ (m - n) * (done' + 1) := Nat.mul_le_mul_left _ (by omega)
      unfold leastDigits
      split <;> split <;> omega
    exact Nat.add_le_add hdigits (leastLength_mono ms (m + 1) (by omega))

theorem encodeAbove_length (input : List Char) (basic : Nat) : ∀ (ms : List Nat) (n : Nat) (e : Encoding),
    (∀ m ∈ ms, ∃ c ∈ input, c.toNat = m) →
    e.out.length + leastLength n e.done ms ≤ (encodeAbove input basic ms n e).out.length
  | [], _, _, _ => Nat.le_refl _
  | m :: ms, n, e, hall => by
    rw [encodeAbove, leastLength]
    have hdistance : (m - n) * (e.done + 1) ≤ e.delta + (m - n) * (e.done + 1) := Nat.le_add_left _ _
    have hround := round_grows basic m { e with delta := e.delta + (m - n) * (e.done + 1) } (hall m (.head _)) hdistance
    generalize input.foldl (Encoding.step basic m) { e with delta := e.delta + (m - n) * (e.done + 1) } = passed
      at hround ⊢
    have ih := encodeAbove_length input basic ms (m + 1) { passed with delta := passed.delta + 1 }
      fun m' hm' => hall m' (.tail _ hm')
    have hmono := leastLength_mono ms (m + 1) hround.2
    simp only at hround ih hmono ⊢
    omega

/-- The length of the encoding of a label beyond ASCII whose characters are in order. -/
theorem encode_length {input : List Char} (hsorted : (input.map Char.toNat).Pairwise (· < ·))
    (hbeyond : ∀ c ∈ input, 128 ≤ c.toNat) : leastLength 128 0 (input.map Char.toNat) ≤ (encode input).length := by
  have habove : ∀ cs : List Char, (cs.map Char.toNat).Pairwise (· < ·) →
      cs.foldr (fun c ms => insertOnce c.toNat ms) [] = cs.map Char.toNat := by
    intro cs
    induction cs with
    | nil => exact fun _ => rfl
    | cons c cs ih =>
      intro h
      obtain ⟨hfirst, hrest⟩ := List.pairwise_cons.mp h
      rw [List.foldr_cons, ih hrest, List.map_cons]
      cases hnext : cs.map Char.toNat with
      | nil => rfl
      | cons m ms => rw [insertOnce, if_pos (hfirst m (hnext ▸ .head _))]
  have hbasic : (input.filter fun c => c.toNat < 128) = [] := List.filter_eq_nil_iff.mpr fun c hc => by
    simpa using hbeyond c hc
  have hall : (input.filter fun c => 128 ≤ c.toNat) = input := List.filter_eq_self.mpr fun c hc => by
    simpa using hbeyond c hc
  simp only [encode, hbasic, hall, habove input hsorted]
  refine Nat.le_trans (Nat.le_add_left _ 0) (encodeAbove_length input 0 _ 128 ⟨[], 0, 72, 0⟩ fun m hm => ?_)
  exact List.mem_map.mp hm

end Courier.Url.Punycode
