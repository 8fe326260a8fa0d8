import Courier.Proofs.Text.Utf8
import Courier.Proofs.Url.Plain
import Courier.Proofs.Url.Punycode
import Courier.Url.Domain

/-! Domains are read back.

    A domain in ASCII is read as itself if all its encoded labels are short enough to be decoded, and is
    refused otherwise (`domain?_written`). Labels may have been encoded that are not. -/

namespace Courier.Url

/-- Whether a label is short enough to be decoded, if it is an encoded one. -/
def isReadable (label : List Char) : Bool :=
  !foreignMark.isPrefixOf label || label.length ≤ foreignMark.length + longestEncoded

/-- A domain as it is written: small letters of ASCII and signs that a domain may hold. -/
def IsWritten (cs : List Char) : Prop := ∀ c ∈ cs, c.toNat < 128 ∧ c.toLower = c ∧ isForbiddenInDomain c = false

instance (cs : List Char) : Decidable (IsWritten cs) := List.decidableBAll _ cs

/-! ### Labels -/

theorem isAscii_iff {cs : List Char} : isAscii cs = true ↔ ∀ c ∈ cs, c.toNat < 128 := by
  simp [isAscii]

theorem isAllowed_iff {cs : List Char} :
    isAllowed cs = true ↔ ∀ c ∈ cs, c.toNat < 128 → isForbiddenInDomain c = false := by
  simp [isAllowed]

theorem isDigit_written {c : Char} (h : Punycode.IsDigit c) : c.toNat < 128 ∧ c.toLower = c ∧ isForbiddenInDomain c = false := by
  have hlow : c.toNat < 128 := by
    have hz : 'z'.toNat < 128 := by decide
    have hnine : '9'.toNat < 128 := by decide
    rcases h with ⟨-, h⟩ | ⟨-, h⟩
    · exact Nat.lt_of_le_of_lt h hz
    · exact Nat.lt_of_le_of_lt h hnine
  exact ⟨hlow, Text.ascii_forall (P := fun c => Punycode.IsDigit c → c.toLower = c ∧ isForbiddenInDomain c = false)
    (by decide +kernel) hlow h⟩

/-- Plain text of ASCII. -/
theorem plain_written {s : List Char} (hplain : plain? s = some s) (hascii : isAscii s = true) : IsWritten s := by
  obtain ⟨hself, -, hallowed⟩ := plain?_plain hplain
  intro c hc
  have hlow := isAscii_iff.mp hascii c hc
  exact ⟨hlow, (isPlain_ascii hlow).mp (hself c hc), isAllowed_iff.mp hallowed c hc hlow⟩

/-- The encoding of plain text. -/
theorem encode_written {s : List Char} (hplain : plain? s = some s) : IsWritten (Punycode.encode s) := by
  obtain ⟨hself, -, hallowed⟩ := plain?_plain hplain
  intro c hc
  rcases Punycode.mem_encode hc with ⟨hmem, hlow⟩ | rfl | hdigit
  · exact ⟨hlow, (isPlain_ascii hlow).mp (hself c hmem), isAllowed_iff.mp hallowed c hmem hlow⟩
  · decide
  · exact isDigit_written hdigit

theorem foreignLabel?_encode {s : List Char} (hplain : plain? s = some s) (hbeyond : isAscii s = false) :
    foreignLabel? (Punycode.encode s) = if (Punycode.encode s).length ≤ longestEncoded then some s else none := by
  have hencoded : isAscii (Punycode.encode s) = true := isAscii_iff.mpr fun c hc => (encode_written hplain c hc).1
  have hlast : ((Punycode.encode s).getLast? == some '-') = false := by
    rw [beq_eq_false_iff_ne]
    refine Punycode.encode_getLast ?_
    rw [Bool.eq_false_iff, ne_eq, isAscii_iff] at hbeyond
    simpa using hbeyond
  simp only [foreignLabel?, hencoded, hlast, Punycode.decode_encode, hbeyond, hplain, Option.bind_eq_bind, failure_bind,
    Option.bind_some]
  by_cases hlong : longestEncoded < (Punycode.encode s).length
  · simp [hlong, Nat.not_le.mpr hlong]
  · simp [hlong, Nat.not_lt.mp hlong]

theorem foreignLabel?_short {encoded letters : List Char} (h : foreignLabel? encoded = some letters) :
    isAscii encoded = true ∧ encoded.length ≤ longestEncoded := by
  simp only [foreignLabel?, Option.bind_eq_bind, failure_bind, Option.ite_none_left_eq_some, Bool.or_eq_true,
    Bool.not_eq_true', decide_eq_true_eq, not_or, Bool.not_eq_false, Nat.not_lt] at h
  exact ⟨h.1.1.1, h.1.2⟩

section foreign

variable (encoded : List Char)

theorem foreign_isForeign : foreignMark.isPrefixOf (foreignMark ++ encoded) = true :=
  List.isPrefixOf_iff_prefix.mpr (List.prefix_append _ _)

theorem isReadable_foreign : isReadable (foreignMark ++ encoded) = decide (encoded.length ≤ longestEncoded) := by
  rw [isReadable, foreign_isForeign, List.length_append]
  simp

theorem label?_foreign : label? (foreignMark ++ encoded) = (foreignLabel? encoded).bind fun letters =>
    if isLabel letters then some ⟨foreignMark ++ encoded, letters⟩ else none := by
  simp only [label?, foreign_isForeign, List.drop_left, if_true, Option.bind_eq_bind]
  rfl

end foreign

theorem label?_beyond {s : List Char} (hforeign : foreignMark.isPrefixOf s = false) (hascii : isAscii s = false) :
    label? s = if isLabel s && s.length ≤ longestDecoded then some ⟨foreignMark ++ Punycode.encode s, s⟩ else none := by
  rw [label?, hforeign, hascii]
  rfl

theorem label?_ascii {s : List Char} (hforeign : foreignMark.isPrefixOf s = false) (hascii : isAscii s = true) :
    label? s = some ⟨s, s⟩ := by
  rw [label?, hforeign, hascii]
  rfl

theorem foreignMark_written : IsWritten foreignMark := by decide

theorem dot_not_mem_encode {s : List Char} (hdot : '.' ∉ s) : '.' ∉ foreignMark ++ Punycode.encode s := fun hmem => by
  rcases List.mem_append.mp hmem with hmem | hmem
  · exact absurd hmem (by decide)
  · rcases Punycode.mem_encode hmem with ⟨hmem, -⟩ | hhyphen | hdigit
    · exact hdot hmem
    · exact absurd hhyphen (by decide)
    · exact absurd hdigit (by decide)

/-- A label that came encoded is short enough. -/
theorem label?_encoded {encoded : List Char} {l : Label} (h : label? (foreignMark ++ encoded) = some l) :
    l.written = foreignMark ++ encoded ∧ isAscii (foreignMark ++ encoded) = true ∧
      isReadable (foreignMark ++ encoded) = true := by
  rw [label?_foreign] at h
  obtain ⟨letters, hletters, h⟩ := Option.bind_eq_some_iff.mp h
  split at h
  · obtain rfl := Option.some.inj h
    obtain ⟨hencoded, hshort⟩ := foreignLabel?_short hletters
    refine ⟨rfl, isAscii_iff.mpr fun c hc => ?_, by simpa [isReadable_foreign] using hshort⟩
    exact (List.mem_append.mp hc).elim (fun hc => (foreignMark_written c hc).1) (isAscii_iff.mp hencoded c)
  · cases h

/-- A label is written in ASCII and read back, unless its encoding is too long. -/
theorem label?_written {s : List Char} {l : Label} (hplain : plain? s = some s) (hdot : '.' ∉ s) (h : label? s = some l) :
    IsWritten l.written ∧ '.' ∉ l.written ∧ label? l.written = if isReadable l.written then some l else none := by
  cases hforeign : foreignMark.isPrefixOf s with
  | true =>
    obtain ⟨encoded, rfl⟩ := List.isPrefixOf_iff_prefix.mp hforeign
    obtain ⟨hself, hascii, hreadable⟩ := label?_encoded h
    rw [hself, hreadable, if_pos rfl]
    exact ⟨plain_written hplain hascii, hdot, h⟩
  | false =>
    cases hascii : isAscii s with
    | true =>
      have hself := label?_ascii hforeign hascii
      obtain rfl := Option.some.inj (hself.symm.trans h)
      have hreadable : isReadable s = true := by simp [isReadable, hforeign]
      exact ⟨plain_written hplain hascii, hdot, by rw [hself, hreadable, if_pos rfl]⟩
    | false =>
      rw [label?_beyond hforeign hascii] at h
      split at h
      · next hlabel =>
        rw [Bool.and_eq_true] at hlabel
        obtain rfl := Option.some.inj h
        refine ⟨fun c hc => ?_, dot_not_mem_encode hdot, ?_⟩
        · exact (List.mem_append.mp hc).elim (foreignMark_written c) (encode_written hplain c)
        · rw [label?_foreign, foreignLabel?_encode hplain hascii, isReadable_foreign]
          by_cases hshort : (Punycode.encode s).length ≤ longestEncoded
          · simp [hshort, hlabel.1]
          · simp [hshort]
      · cases h

/-! ### Domains -/

/-- Characters that are not encoded stand for themselves. -/
theorem percentDecode_eq {cs : List Char} (h : '%' ∉ cs) : percentDecode cs = Text.charsBytes cs := by
  induction cs with
  | nil => rfl
  | cons c cs ih =>
    obtain ⟨hc, hcs⟩ := not_or.mp (mt List.mem_cons.mpr h)
    rw [percentDecode.eq_3, ih hcs]
    · rfl
    · exact fun _ _ _ hsame => absurd hsame.symm hc

theorem plain?_written {cs : List Char} (h : IsWritten cs) : plain? cs = some cs := by
  have hascii : ∀ c ∈ cs, c.toNat < 128 := fun c hc => (h c hc).1
  exact plain?_self (fun c hc => (isPlain_ascii (hascii c hc)).mpr (h c hc).2.1)
    (Text.composed_inert fun c hc => by simpa [Text.inRanges, Text.inertRanges] using .inl (Nat.le_of_lt_succ (hascii c hc)))
    (isAllowed_iff.mpr fun c hc _ => (h c hc).2.2)

theorem domain?_labels {d : List Char} (h : IsWritten d) : domain? d =
    ((d.splitOn '.').mapM label?).bind fun labels =>
      if labels.any (·.letters.any runsLeftward) && !labels.all (keepsOrder ·.letters) then none
      else some (List.intercalate ['.'] (labels.map (·.written))) := by
  have hpercent : '%' ∉ d := fun hc => absurd (h '%' hc).2.2 (by decide)
  simp only [domain?, percentDecode_eq hpercent, Text.decodeChars_charsBytes, Except.toOption, plain?_written h,
    Option.bind_eq_bind, Option.bind_some, failure_bind]
  rfl

theorem mapM_written : ∀ {labels : List Label},
    (∀ l ∈ labels, label? l.written = if isReadable l.written then some l else none) →
    (labels.map (·.written)).mapM label? = if (labels.map (·.written)).all isReadable then some labels else none
  | [], _ => rfl
  | l :: labels, h => by
    have hlabel := h l List.mem_cons_self
    have ih := mapM_written fun l' hl' => h l' (.tail _ hl')
    rw [List.map_cons, List.mapM_cons, hlabel, ih, List.all_cons]
    cases isReadable l.written with
    | false => rfl
    | true => cases (labels.map (·.written)).all isReadable <;> rfl

theorem domain?_written {cs d : List Char} (h : domain? cs = some d) :
    IsWritten d ∧ domain? d = if (d.splitOn '.').all isReadable then some d else none := by
  simp only [domain?, Option.bind_eq_bind, failure_bind, Option.bind_eq_some_iff, Option.ite_none_left_eq_some,
    Option.pure_def, Option.some.injEq] at h
  obtain ⟨decoded, -, plain, hplain, labels, hlabels, horder, rfl⟩ := h
  have hpieces := plain?_piece hplain
  have hlabel : ∀ l ∈ labels, IsWritten l.written ∧ '.' ∉ l.written ∧
      label? l.written = if isReadable l.written then some l else none := fun l hl => by
    obtain ⟨s, hs, hread⟩ := List.mem_map.mp (mapM_eq_some_iff.mp hlabels ▸ List.mem_map_of_mem hl)
    exact label?_written (hpieces s hs) (fun hdot => (mem_of_splitOn hs '.' hdot).2 rfl) hread
  have hsome : labels ≠ [] := by
    rintro rfl
    exact List.splitOn_ne_nil '.' plain (List.map_eq_nil_iff.mp (mapM_eq_some_iff.mp hlabels))
  have hcut : (['.'].intercalate (labels.map (·.written))).splitOn '.' = labels.map (·.written) := by
    refine List.splitOn_intercalate '.' (fun s hs => ?_) (by simpa using hsome)
    obtain ⟨l, hl, rfl⟩ := List.mem_map.mp hs
    exact (hlabel l hl).2.1
  have hwritten : IsWritten (['.'].intercalate (labels.map (·.written))) := fun c hc => by
    rcases splitOn_of_mem (a := '.') c hc with rfl | ⟨s, hs, hmem⟩
    · decide
    · rw [hcut] at hs
      obtain ⟨l, hl, rfl⟩ := List.mem_map.mp hs
      exact (hlabel l hl).1 c hmem
  refine ⟨hwritten, ?_⟩
  rw [domain?_labels hwritten, hcut, mapM_written fun l hl => (hlabel l hl).2.2]
  split
  · rw [Option.bind_some, if_neg horder]
  · rfl

/-- A domain of ASCII whose labels did not come encoded. -/
theorem domain?_ascii {d : List Char} (h : IsWritten d)
    (hforeign : ∀ s ∈ d.splitOn '.', foreignMark.isPrefixOf s = false) : domain? d = some d := by
  have hneutral {c : Char} (hc : c.toNat < 128) : runsLeftward c = false :=
    Text.ascii_forall (P := fun c => runsLeftward c = false) (by decide +kernel) hc
  have hread : (d.splitOn '.').mapM label? = some ((d.splitOn '.').map fun s => ⟨s, s⟩) := mapM_eq_some_iff.mpr <| by
    rw [List.map_map]
    refine List.map_congr_left fun s hs => label?_ascii (hforeign s hs) (isAscii_iff.mpr fun c hc => ?_)
    exact (h c (mem_of_splitOn hs c hc).1).1
  have horder : ((d.splitOn '.').map fun s => (⟨s, s⟩ : Label)).any (·.letters.any runsLeftward) = false := by
    rw [List.any_map, List.any_eq_false]
    intro s hs
    rw [Function.comp_apply, Bool.not_eq_true, List.any_eq_false]
    intro c hc
    simp [hneutral (h c (mem_of_splitOn hs c hc).1).1]
  rw [domain?_labels h, hread, Option.bind_some, horder, Bool.false_and, if_neg Bool.false_ne_true, List.map_map]
  simp [Function.comp_def, List.intercalate_splitOn]

/-! ### Ideographs -/

/-- An ideograph beyond the first plane. -/
def IsIdeograph (c : Char) : Prop := 0x20000 ≤ c.toNat ∧ c.toNat ≤ 0x2A6DF

instance (c : Char) : Decidable (IsIdeograph c) := inferInstanceAs (Decidable (_ ∧ _))

theorem IsIdeograph.outside {c : Char} (h : IsIdeograph c) {rs : List (Nat × Nat)}
    (hrs : ∀ r ∈ rs, r.2 < 0x20000 ∨ 0x2A6DF < r.1) : Text.inRanges rs c.toNat = false := by
  rw [Text.inRanges, List.any_eq_false]
  intro r hr
  obtain ⟨hlow, hhigh⟩ := h
  have hout := hrs r hr
  simp only [Bool.and_eq_true, decide_eq_true_eq]
  omega

theorem IsIdeograph.rightward {c : Char} (h : IsIdeograph c) : runsLeftward c = false := by
  have hleftward : Text.inRanges leftwardRanges c.toNat = false := h.outside (by decide +kernel)
  have harabic : Text.inRanges arabicNumberRanges c.toNat = false := h.outside (by decide +kernel)
  have hbeyond : ¬ c.toNat < 128 := by
    have hlow := h.1
    omega
  have hother : directionOf c ≠ .leftward ∧ directionOf c ≠ .arabicNumber := by
    simp only [directionOf, if_neg hbeyond, hleftward, harabic, Bool.false_eq_true, if_false]
    split
    · exact ⟨nofun, nofun⟩
    · split
      · exact ⟨nofun, nofun⟩
      · split <;> exact ⟨nofun, nofun⟩
  simp [runsLeftward, hother]

theorem IsIdeograph.isPlain {c : Char} (h : IsIdeograph c) : IsPlain c :=
  isPlain_unchanged (by
    rw [Text.inRanges, List.any_cons, Bool.or_eq_true]
    exact .inl (by simpa [IsIdeograph] using h))

theorem joinersFit_ideographs : ∀ (before : List Char) {cs : List Char}, (∀ c ∈ cs, IsIdeograph c) →
    joinersFit before cs = true
  | _, [], _ => rfl
  | before, c :: cs, h => by
    have hc : c ≠ nonJoiner ∧ c ≠ joiner := by
      refine ⟨?_, ?_⟩ <;> rintro rfl <;> exact absurd (h _ (.head _)) (by decide)
    rw [joinersFit, joinersFit_ideographs _ fun c' hc' => h c' (.tail _ hc')]
    simp [hc.1, hc.2]

section ideographs

variable {cs : List Char} (h : ∀ c ∈ cs, IsIdeograph c) (hfilled : cs ≠ []) (hshort : cs.length ≤ longestDecoded)

include h hfilled hshort

theorem label?_ideographs : label? cs = some ⟨foreignMark ++ Punycode.encode cs, cs⟩ := by
  obtain ⟨first, rest, hcs⟩ := List.exists_cons_of_ne_nil hfilled
  have hfirst : IsIdeograph first := h first (hcs ▸ .head _)
  have hforeign : foreignMark.isPrefixOf cs = false := by
    rw [Bool.eq_false_iff, ne_eq, List.isPrefixOf_iff_prefix]
    exact fun hfront => absurd (h _ (hfront.subset (.head _))) (by decide)
  have hascii : isAscii cs = false := by
    rw [Bool.eq_false_iff, ne_eq, isAscii_iff]
    intro hlow
    have hhigh := hfirst.1
    have hfirstLow := hlow first (hcs ▸ .head _)
    omega
  have hlabel : isLabel cs = true := by
    have hmark : Text.inRanges markRanges first.toNat = false := hfirst.outside (by decide +kernel)
    rw [isLabel, joinersFit_ideographs [] h, hcs]
    simp [hmark]
  rw [label?_beyond hforeign hascii, hlabel]
  simp [hshort]

/-- A label of ideographs is encoded, however long its encoding is. -/
theorem domain?_ideographs : domain? cs = some (foreignMark ++ Punycode.encode cs) := by
  have hnone {c : Char} (hc : ¬ IsIdeograph c) : c ∉ cs := fun hmem => hc (h c hmem)
  have hplain : plain? cs = some cs := plain?_self (fun c hc => (h c hc).isPlain)
    (Text.composed_inert fun c hc => by simpa [Text.inRanges, Text.inertRanges] using .inr (h c hc)) <|
    isAllowed_iff.mpr fun c hc hlow => absurd (h c hc).1 (by omega)
  have hletters : cs.any runsLeftward = false := List.any_eq_false.mpr fun c hc => by simp [(h c hc).rightward]
  simp only [domain?, percentDecode_eq (hnone (by decide : ¬ IsIdeograph '%')), Text.decodeChars_charsBytes,
    Except.toOption, hplain, List.splitOn_eq_singleton (hnone (by decide : ¬ IsIdeograph '.')), List.mapM_cons,
    List.mapM_nil, label?_ideographs h hfilled hshort, Option.bind_eq_bind, Option.bind_some, Option.pure_def,
    failure_bind, List.any_cons, List.any_nil, hletters, Bool.or_false, Bool.false_and, Bool.false_eq_true, if_false]
  simp

end ideographs

end Courier.Url
