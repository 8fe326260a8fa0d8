import Courier.Proofs.Url.Address
import Courier.Proofs.Url.Domain

/-! Hosts are read back.

    The text of a host that was read is the text of this host, unless a label of it is too long to be
    decoded (`specialHost_text`). -/

namespace Courier.Url

/-- Whether the labels of a host are short enough to be decoded, if they are encoded. -/
def Host.isReadable : Host → Bool
  | .name s => (s.toList.splitOn '.').all Url.isReadable
  | _ => true

/-- A host of the web. -/
def Host.IsKept : Host → Prop
  | .name s => s ≠ "" ∧ IsWritten s.toList
  | .ipv4 a => a < twoTo 32
  | .ipv6 ps => IsIpv6 ps

theorem specialHost_domain {cs : List Char} (h : ∀ rest, cs ≠ '[' :: rest) : specialHost cs = match domain? cs with
    | none => .error .invalidDomain
    | some [] => .error .emptyHost
    | some d =>
      if endsInNumber d then match ipv4? d with
        | some a => .ok (.ipv4 a)
        | none => .error .invalidIpv4
      else .ok (.name (String.ofList d)) := specialHost.eq_2 cs h

theorem ipv4Text_written (a : Nat) : IsWritten (ipv4Text a).toList ∧
    ∀ s ∈ (ipv4Text a).toList.splitOn '.', foreignMark.isPrefixOf s = false := by
  have hdigit : ∀ d < 10, ((Nat.digitChar d).toNat < 128 ∧ (Nat.digitChar d).toLower = Nat.digitChar d ∧
      isForbiddenInDomain (Nat.digitChar d) = false) ∧ Nat.digitChar d ≠ 'x' := by decide
  have hpart : ∀ s ∈ (ipv4Text a).toList.splitOn '.', ∀ c ∈ s, ∃ d < 10, c = Nat.digitChar d := by
    rw [splitOn_ipv4Text]
    intro s hs
    obtain ⟨n, -, rfl⟩ := List.mem_map.mp hs
    exact mem_toDigits (by decide) n
  refine ⟨fun c hc => ?_, fun s hs => ?_⟩
  · rcases splitOn_of_mem (a := '.') c hc with rfl | ⟨s, hs, hmem⟩
    · decide
    · obtain ⟨d, hd, rfl⟩ := hpart s hs c hmem
      exact (hdigit d hd).1
  · rw [Bool.eq_false_iff, ne_eq, List.isPrefixOf_iff_prefix]
    intro hfront
    obtain ⟨d, hd, hx⟩ := hpart s hs 'x' (hfront.subset (by decide))
    exact (hdigit d hd).2 hx.symm

theorem bracketed_ipv6Text {ps : List Nat} (h : IsIpv6 ps) :
    bracketed ((ipv6Text ps).toList ++ [']']) = .ok (.ipv6 ps) := by
  simp [bracketed, ipv6?_ipv6Text h]

theorem bracketed_kept {cs : List Char} {h : Host} (hread : bracketed cs = .ok h) : ∃ ps, h = .ipv6 ps ∧ IsIpv6 ps := by
  rw [bracketed] at hread
  split at hread
  · cases hread
  · split at hread
    · next ps hps =>
      obtain rfl := Except.ok.inj hread
      exact ⟨ps, rfl, ipv6?_isIpv6 hps⟩
    · cases hread

theorem IsWritten.noBracket {d : List Char} (h : IsWritten d) (rest : List Char) : d ≠ '[' :: rest := by
  rintro rfl
  exact absurd (h '[' (.head _)).2.2 (by decide)

theorem specialHost_written {d : List Char} (h : IsWritten d) (hread : domain? d = some d) (hsome : d ≠ []) :
    specialHost d = if endsInNumber d then match ipv4? d with
        | some a => .ok (.ipv4 a)
        | none => .error .invalidIpv4
      else .ok (.name (String.ofList d)) := by
  rw [specialHost_domain h.noBracket, hread]
  cases d with
  | nil => exact absurd rfl hsome
  | cons c d => rfl

theorem Host.toList_ipv6 (ps : List Nat) : (Host.ipv6 ps).text.toList = '[' :: ((ipv6Text ps).toList ++ [']']) := by
  simp [Host.text]

theorem ipv4Text_filled {a : Nat} (h : a < twoTo 32) : (ipv4Text a).toList ≠ [] := fun hnil => by
  have hnumber := (ipv4?_ipv4Text h).1
  rw [hnil] at hnumber
  cases hnumber

theorem specialHost_ipv4Text {a : Nat} (h : a < twoTo 32) : specialHost (ipv4Text a).toList = .ok (.ipv4 a) := by
  obtain ⟨htext, hforeign⟩ := ipv4Text_written a
  obtain ⟨hnumber, haddress⟩ := ipv4?_ipv4Text h
  rw [specialHost_written htext (domain?_ascii htext hforeign) (ipv4Text_filled h), if_pos hnumber, haddress]

/-- The text of a host. -/
theorem specialHost_text {cs : List Char} {h : Host} (hread : specialHost cs = .ok h) :
    h.IsKept ∧ specialHost h.text.toList = if h.isReadable then .ok h else .error .invalidDomain := by
  by_cases hbracket : ∃ rest, cs = '[' :: rest
  · obtain ⟨rest, rfl⟩ := hbracket
    obtain ⟨ps, rfl, hps⟩ := bracketed_kept hread
    rw [Host.toList_ipv6]
    exact ⟨hps, bracketed_ipv6Text hps⟩
  · rw [specialHost_domain fun rest hcs => hbracket ⟨rest, hcs⟩] at hread
    split at hread
    · cases hread
    · cases hread
    · next d hsome hdomain =>
      obtain ⟨hwritten, hagain⟩ := domain?_written hdomain
      split at hread
      · split at hread
        · next a ha =>
          obtain rfl := Except.ok.inj hread
          exact ⟨ipv4?_lt ha, specialHost_ipv4Text (ipv4?_lt ha)⟩
        · cases hread
      · next hname =>
        obtain rfl := Except.ok.inj hread
        refine ⟨⟨fun hempty => hsome (String.ofList_eq_empty_iff.mp hempty), by rwa [String.toList_ofList]⟩, ?_⟩
        have htext : (Host.name (String.ofList d)).text.toList = d := String.toList_ofList
        rw [htext, Host.isReadable, String.toList_ofList]
        split
        · next hreadable =>
          rw [if_pos hreadable] at hagain
          rw [specialHost_written hwritten hagain hsome, if_neg hname]
        · next hlong =>
          rw [if_neg hlong] at hagain
          rw [specialHost_domain hwritten.noBracket, hagain]

section ideographs

variable {cs : List Char} (h : ∀ c ∈ cs, IsIdeograph c)

include h

theorem dot_not_mem_foreign : '.' ∉ foreignMark ++ Punycode.encode cs :=
  dot_not_mem_encode fun hmem => absurd (h '.' hmem) (by decide)

theorem isReadable_ideographs : (Host.name (String.ofList (foreignMark ++ Punycode.encode cs))).isReadable =
    Url.isReadable (foreignMark ++ Punycode.encode cs) := by
  rw [Host.isReadable, String.toList_ofList, List.splitOn_eq_singleton (dot_not_mem_foreign h)]
  exact Bool.and_true _

/-- A host of ideographs is accepted and kept encoded. -/
theorem specialHost_ideographs (hfilled : cs ≠ []) (hshort : cs.length ≤ longestDecoded) :
    specialHost cs = .ok (.name (String.ofList (foreignMark ++ Punycode.encode cs))) := by
  have hname : endsInNumber (foreignMark ++ Punycode.encode cs) = false := by
    have hparts : domainParts (foreignMark ++ Punycode.encode cs) = [foreignMark ++ Punycode.encode cs] :=
      domainParts_eq (List.splitOn_eq_singleton (dot_not_mem_foreign h)) (by simp [foreignMark])
    rw [endsInNumber, hparts]
    rfl
  have hbracket (rest : List Char) : cs ≠ '[' :: rest := by
    rintro rfl
    exact absurd (h '[' (.head _)) (by decide)
  obtain ⟨c, d, hd⟩ : ∃ c d, foreignMark ++ Punycode.encode cs = c :: d := ⟨_, _, rfl⟩
  rw [specialHost_domain hbracket, domain?_ideographs h hfilled hshort, hd]
  rw [hd] at hname
  dsimp only
  rw [hname, if_neg Bool.false_ne_true]

end ideographs

end Courier.Url
