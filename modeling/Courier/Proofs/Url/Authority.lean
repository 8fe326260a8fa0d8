import Courier.Proofs.Url.Host
import Courier.Proofs.Url.Percent
import Courier.Url.Parse

/-! Authorities are read back.

    Nothing in the text of an authority ends it, and what was read of it, user, password, host and port,
    is read again (`readAuthority_text`). Only a host with a label that is too long to be decoded is
    refused. -/

namespace Courier.Url

/-! ### Characters of hosts -/

/-- A character inside an authority that ends neither the user nor the host. -/
structure IsInner (c : Char) : Prop where
  inside : endsAuthority .web c = false
  counted : isIgnored c = false
  noUser : c ≠ '@'

instance (c : Char) : Decidable (IsInner c) :=
  decidable_of_iff (endsAuthority .web c = false ∧ isIgnored c = false ∧ c ≠ '@')
    ⟨fun ⟨h, h', h''⟩ => ⟨h, h', h''⟩, fun ⟨h, h', h''⟩ => ⟨h, h', h''⟩⟩

theorem written_inner {c : Char} (h : c.toNat < 128 ∧ c.toLower = c ∧ isForbiddenInDomain c = false) :
    IsInner c ∧ c ≠ ':' ∧ c ≠ '[' ∧ c ≠ ']' :=
  Text.ascii_forall (P := fun c => isForbiddenInDomain c = false → IsInner c ∧ c ≠ ':' ∧ c ≠ '[' ∧ c ≠ ']')
    (by decide +kernel) h.1 h.2.2

theorem IsIdeograph.inner {c : Char} (h : IsIdeograph c) : IsInner c ∧ c ≠ ':' ∧ c ≠ '[' ∧ c ≠ ']' := by
  have hother (d : Char) (hd : ¬ IsIdeograph d) : c ≠ d := fun hsame => hd (hsame ▸ h)
  refine ⟨⟨?_, ?_, hother '@' (by decide)⟩, hother ':' (by decide), hother '[' (by decide), hother ']' (by decide)⟩
  · simp [endsAuthority, isSlash, hother '/' (by decide), hother '\\' (by decide), hother '?' (by decide),
      hother '#' (by decide)]
  · simp [isIgnored, hother '\t' (by decide), hother '\n' (by decide), hother '\r' (by decide)]

theorem mem_ipv6Text {ps : List Nat} {c : Char} (h : c ∈ (ipv6Text ps).toList) :
    c = ':' ∨ ∃ d < 16, c = Nat.digitChar d := by
  have hpieces {ps : List Nat} {c : Char} (h : c ∈ (piecesText ps).toList) : c = ':' ∨ ∃ d < 16, c = Nat.digitChar d := by
    rw [toList_piecesText, joined] at h
    rcases mem_intercalate h with hcolon | ⟨l, hl, hc⟩
    · exact .inl hcolon
    · obtain ⟨p, -, rfl⟩ := List.mem_map.mp hl
      exact .inr (mem_toDigits (by decide) p c hc)
  rw [ipv6Text] at h
  split at h
  · exact hpieces h
  · rw [String.toList_append, String.toList_append, List.mem_append, List.mem_append] at h
    rcases h with (h | h) | h
    · exact hpieces h
    · exact .inl (by simpa using h)
    · exact hpieces h

/-- The colon of a port comes behind the host. -/
theorem cutPort_name {cs rest : List Char} (h : ∀ c ∈ cs, c ≠ ':' ∧ c ≠ '[' ∧ c ≠ ']') :
    cutPort false (cs ++ rest) = (cs ++ (cutPort false rest).1, (cutPort false rest).2) := by
  induction cs with
  | nil => rfl
  | cons c cs ih =>
    obtain ⟨hcolon, hopen, hclose⟩ := h c (.head _)
    rw [List.cons_append, cutPort, if_neg (by simpa using hcolon), if_neg (by simpa using hopen),
      if_neg (by simpa using hclose), ih fun c hc => h c (.tail _ hc)]
    rfl

theorem cutPort_brackets {cs rest : List Char} (h : ∀ c ∈ cs, c ≠ '[' ∧ c ≠ ']') :
    cutPort true (cs ++ ']' :: rest) = (cs ++ ']' :: (cutPort false rest).1, (cutPort false rest).2) := by
  induction cs with
  | nil => rfl
  | cons c cs ih =>
    obtain ⟨hopen, hclose⟩ := h c (.head _)
    rw [List.cons_append, cutPort, if_neg (by simp), if_neg (by simpa using hopen), if_neg (by simpa using hclose),
      ih fun c hc => h c (.tail _ hc)]
    rfl

/-- A host of the web is not empty. -/
theorem Host.IsKept.isEmpty_eq {h : Host} (hkept : h.IsKept) : h.isEmpty = false := by
  cases h with
  | name s => simpa [Host.isEmpty] using hkept.1
  | ipv4 a => rfl
  | ipv6 ps => rfl

/-- The text of a host: nothing in it ends it. -/
structure HostText (cs : List Char) : Prop where
  inner : ∀ c ∈ cs, IsInner c
  filled : cs ≠ []
  cut (rest : List Char) : cutPort false (cs ++ rest) = (cs ++ (cutPort false rest).1, (cutPort false rest).2)

theorem IsWritten.hostText {cs : List Char} (h : IsWritten cs) (hfilled : cs ≠ []) : HostText cs where
  inner c hc := (written_inner (h c hc)).1
  filled := hfilled
  cut _ := cutPort_name fun c hc => (written_inner (h c hc)).2

theorem Host.IsKept.hostText {h : Host} (hkept : h.IsKept) : HostText h.text.toList := by
  cases h with
  | name s => exact hkept.2.hostText fun hnil => hkept.1 (String.toList_eq_nil_iff.mp hnil)
  | ipv4 a => exact (ipv4Text_written a).1.hostText (ipv4Text_filled hkept)
  | ipv6 ps =>
    have hdigit : ∀ d < 16, IsInner (Nat.digitChar d) ∧ Nat.digitChar d ≠ '[' ∧ Nat.digitChar d ≠ ']' := by decide
    have hinside : ∀ c ∈ (ipv6Text ps).toList, IsInner c ∧ c ≠ '[' ∧ c ≠ ']' := fun c hc => by
      rcases mem_ipv6Text hc with rfl | ⟨d, hd, rfl⟩
      · decide
      · exact hdigit d hd
    rw [Host.toList_ipv6]
    refine ⟨fun c hc => ?_, List.cons_ne_nil _ _, fun rest => ?_⟩
    · rcases List.mem_cons.mp hc with rfl | hc
      · decide
      · rcases List.mem_append.mp hc with hc | hc
        · exact (hinside c hc).1
        · rw [List.mem_singleton.mp hc]
          decide
    · have hbrackets : cutPort true ((ipv6Text ps).toList ++ ']' :: rest) = _ :=
        cutPort_brackets fun c hc => (hinside c hc).2
      rw [List.cons_append, cutPort, if_neg (by simp), if_pos (by simp), List.append_assoc, List.singleton_append,
        hbrackets]
      simp

/-! ### Ports -/

/-- The text behind a host. -/
def portText (port : Option Nat) : List Char := match port with
  | some p => ':' :: Nat.toDigits 10 p
  | none => []

/-- A port that a URL of a scheme keeps. -/
def KeepsPort (scheme : String) (port : Option Nat) : Prop := ∀ p, port = some p → p ≤ 65535 ∧ defaultPort scheme ≠ some p

theorem readPort_kept {scheme : String} {cs rest : List Char} {port : Option Nat}
    (h : readPort scheme cs = .ok (port, rest)) : KeepsPort scheme port := by
  simp only [readPort] at h
  split at h
  · cases h
  · split at h
    · cases h
    · next hrange =>
      split at h
      · obtain ⟨rfl, -⟩ := Prod.mk.inj (Except.ok.inj h)
        exact nofun
      · next hother =>
        obtain ⟨rfl, -⟩ := Prod.mk.inj (Except.ok.inj h)
        simp only [Bool.or_eq_true, decide_eq_true_eq, beq_iff_eq, not_or, Nat.not_lt] at hrange hother
        rintro p ⟨⟩
        exact ⟨hrange.1, hother.2⟩

theorem readPort_text {scheme : String} {port : Option Nat} (h : KeepsPort scheme port) :
    readPort scheme ((portText port).drop 1) = .ok (port, []) := by
  cases port with
  | none => rfl
  | some p =>
    obtain ⟨hrange, hother⟩ := h p rfl
    have hdigits : ∀ c ∈ Nat.toDigits 10 p, c.isDigit = true := fun c hc =>
      Nat.isDigit_of_mem_toDigits (by decide) (by decide) hc
    have hspan : (Nat.toDigits 10 p ++ []).span Char.isDigit = (Nat.toDigits 10 p, []) := span_append hdigits nofun
    rw [List.append_nil] at hspan
    have hfilled : (Nat.toDigits 10 p).isEmpty = false := by simp
    have htail : (portText (some p)).drop 1 = Nat.toDigits 10 p := rfl
    rw [htail, readPort, hspan]
    simp [numberIn_toDigits, hfilled, hother, Nat.not_lt.mpr hrange]

theorem portText_inner (port : Option Nat) : ∀ c ∈ portText port, IsInner c := by
  have hdigit : ∀ d < 10, IsInner (Nat.digitChar d) := by decide
  cases port with
  | none => nofun
  | some p =>
    intro c hc
    rcases List.mem_cons.mp hc with rfl | hc
    · decide
    · obtain ⟨d, hd, rfl⟩ := mem_toDigits (by decide) p c hc
      exact hdigit d hd

theorem cutPort_portText (port : Option Nat) : cutPort false (portText port) = ([], portText port) := by
  cases port <;> rfl

/-! ### Hosts with ports -/

theorem readHost_kept {scheme : String} {cs rest : List Char} {h : Host} {port : Option Nat}
    (hread : readHost scheme .web cs = .ok (h, port, rest)) : (∃ cs, specialHost cs = .ok h) ∧ KeepsPort scheme port := by
  rw [readHost] at hread
  simp only [bind, Except.bind, pure, Except.pure, throw, throwThe, MonadExceptOf.throw, Family.isSpecial, if_true,
    Bool.or_true, Bool.and_true] at hread
  split at hread
  · cases hread
  · split at hread
    · cases hread
    · next host hhost =>
      split at hread
      · cases hread
      · split at hread
        · cases hread
        · next kept hport =>
          obtain ⟨rfl, hrest⟩ := Prod.mk.inj (Except.ok.inj hread)
          obtain ⟨rfl, -⟩ := Prod.mk.inj hrest
          exact ⟨⟨_, hhost⟩, readPort_kept hport⟩

theorem readHost_text {scheme : String} {cs : List Char} {h : Host} (hread : specialHost cs = .ok h) {port : Option Nat}
    (hport : KeepsPort scheme port) : readHost scheme .web (h.text.toList ++ portText port) =
      if h.isReadable then .ok (h, port, []) else .error .invalidDomain := by
  obtain ⟨hkept, hagain⟩ := specialHost_text hread
  have htext := hkept.hostText
  have hcut : cutPort false (h.text.toList ++ portText port) = (h.text.toList, portText port) := by
    rw [htext.cut, cutPort_portText, List.append_nil]
  have hfilled : h.text.toList.isEmpty = false := by
    rw [List.isEmpty_eq_false_iff]
    exact htext.filled
  have hsome := hkept.isEmpty_eq
  rw [readHost, hcut]
  simp only [bind, Except.bind, pure, Except.pure, throw, throwThe, MonadExceptOf.throw, Family.isSpecial, if_true,
    hfilled, hagain, Bool.and_false, Bool.false_eq_true, if_false]
  cases hreadable : h.isReadable with
  | true =>
    simp only [hsome, if_true, Bool.false_and, Bool.false_eq_true, if_false, readPort_text hport]
  | false => rfl

/-! ### Users -/

/-- The text behind a user. -/
def passwordText (password : Option String) : List Char := match password with
  | some p => ':' :: p.toList
  | none => []

theorem mem_userSet {c : Char} (h : 32 ≤ c.toNat ∧ c.toNat ≤ 126 ∧ c ∉ userSet) : IsInner c ∧ c ≠ ':' :=
  Text.ascii_forall (P := fun c => 32 ≤ c.toNat ∧ c.toNat ≤ 126 ∧ c ∉ userSet → IsInner c ∧ c ≠ ':')
    (by decide +kernel) (by omega) h

theorem readUser_kept (cs : List Char) : Settled userSet (readUser cs).1.toList ∧
    ∀ p, (readUser cs).2 = some p → Settled userSet p.toList ∧ p ≠ "" := by
  have hsigns : ∀ c ∈ percentSigns, c ∉ userSet := List.all_iff_forall_prop.mp (by decide)
  refine ⟨percent_settled hsigns _, fun p hp => ?_⟩
  simp only [readUser] at hp
  split at hp
  · obtain rfl := Option.some.inj hp
    exact ⟨percent_settled hsigns _, fun hempty => nomatch percent_eq_empty.mp hempty⟩
  · cases hp

theorem readUser_text {user : String} {password : Option String} (huser : Settled userSet user.toList)
    (hpassword : ∀ p, password = some p → Settled userSet p.toList ∧ p ≠ "") :
    readUser (user.toList ++ passwordText password) = (user, password) := by
  have hspan : (user.toList ++ passwordText password).span (· != ':') = (user.toList, passwordText password) := by
    refine span_append (fun c hc => by simpa using (mem_userSet (huser c hc)).2) fun c hc => ?_
    cases password with
    | none => cases hc
    | some p =>
      obtain rfl := Option.some.inj hc
      rfl
  rw [readUser, hspan]
  dsimp only
  rw [huser.percent, String.ofList_toList]
  cases password with
  | none => rfl
  | some p =>
    obtain ⟨hsettled, hfilled⟩ := hpassword p rfl
    obtain ⟨c, cs, hchars⟩ := List.exists_cons_of_ne_nil (mt String.toList_eq_nil_iff.mp hfilled)
    have htext : passwordText (some p) = ':' :: c :: cs := by rw [passwordText, hchars]
    rw [htext]
    dsimp only
    rw [← hchars, hsettled.percent, String.ofList_toList]

theorem splitUser_none {cs : List Char} (h : '@' ∉ cs) : splitUser cs = none := by
  have hspan : (cs.reverse ++ []).span (· != '@') = (cs.reverse, []) := span_append (fun c hc => by
    rw [bne_iff_ne]
    rintro rfl
    exact h (List.mem_reverse.mp hc)) nofun
  rw [List.append_nil] at hspan
  rw [splitUser, hspan]

theorem splitUser_some {host : List Char} (h : '@' ∉ host) (user : List Char) :
    splitUser (user ++ '@' :: host) = some (user, host) := by
  have hspan : (host.reverse ++ '@' :: user.reverse).span (· != '@') = (host.reverse, '@' :: user.reverse) :=
    span_append (fun c hc => by
      rw [bne_iff_ne]
      rintro rfl
      exact h (List.mem_reverse.mp hc)) fun c hc => by rw [← Option.some.inj hc]; rfl
  rw [splitUser, List.reverse_append, List.reverse_cons, List.append_assoc, List.singleton_append, hspan]
  simp

/-! ### Authorities -/

/-- An authority that was read. -/
structure Authority.IsKept (scheme : String) (a : Authority) : Prop where
  user : Settled userSet a.user.toList
  password : ∀ p, a.password = some p → Settled userSet p.toList ∧ p ≠ ""
  host : ∃ cs, specialHost cs = .ok a.host
  port : KeepsPort scheme a.port

theorem readAuthority_kept {scheme : String} {isLast : Bool} {cs rest : List Char} {a : Authority}
    (h : readAuthority scheme .web isLast cs = .ok (a, rest)) : a.IsKept scheme := by
  rw [readAuthority] at h
  simp only [bind, Except.bind, pure, Except.pure, throw, throwThe, MonadExceptOf.throw] at h
  split at h
  · split at h
    · cases h
    · next kept hhost =>
      obtain ⟨rfl, -⟩ := Prod.mk.inj (Except.ok.inj h)
      obtain ⟨hhost, hport⟩ := readHost_kept hhost
      exact ⟨nofun, nofun, hhost, hport⟩
  · next userChars hostChars _ =>
    split at h
    · cases h
    · split at h
      · cases h
      · next kept hhost =>
        split at h
        · cases h
        · obtain ⟨rfl, -⟩ := Prod.mk.inj (Except.ok.inj h)
          obtain ⟨hhost, hport⟩ := readHost_kept hhost
          obtain ⟨huser, hpassword⟩ := readUser_kept userChars
          exact ⟨huser, hpassword, hhost, hport⟩

/-- The text of an authority: its user, if it has one, and its host and port. -/
theorem Authority.toList_text (a : Authority) : a.text.toList =
    (if a.user = "" ∧ a.password = none then [] else a.user.toList ++ passwordText a.password ++ ['@']) ++
      (a.host.text.toList ++ portText a.port) := by
  obtain ⟨user, password, host, port⟩ := a
  by_cases huser : user = "" <;> cases password <;> cases port <;>
    simp [text, userText, portText, passwordText, huser]

theorem readAuthority_text {scheme : String} {a : Authority} (h : a.IsKept scheme) (isLast : Bool) :
    readAuthority scheme .web isLast a.text.toList = if a.host.isReadable then .ok (a, []) else .error .invalidDomain := by
  obtain ⟨huser, hpassword, ⟨cs, hhost⟩, hport⟩ := h
  have hread := readHost_text hhost hport
  have hkept := (specialHost_text hhost).1
  have hnoUser : '@' ∉ a.host.text.toList ++ portText a.port := fun hc => by
    rcases List.mem_append.mp hc with hc | hc
    · exact (hkept.hostText.inner '@' hc).noUser rfl
    · exact (portText_inner a.port '@' hc).noUser rfl
  rw [a.toList_text]
  by_cases hnone : a.user = "" ∧ a.password = none
  · have hself : (⟨"", none, a.host, a.port⟩ : Authority) = a := by
      rw [← hnone.1, ← hnone.2]
    rw [if_pos hnone, List.nil_append, readAuthority, splitUser_none hnoUser]
    simp only [bind, Except.bind, pure, Except.pure, hread]
    cases a.host.isReadable with
    | true => simp [hself]
    | false => rfl
  · have hfilled : (a.host.text.toList ++ portText a.port).isEmpty = false := by
      simp [hkept.hostText.filled]
    have hsome := hkept.isEmpty_eq
    rw [if_neg hnone, List.append_assoc, List.singleton_append, readAuthority, splitUser_some hnoUser]
    simp only [bind, Except.bind, pure, Except.pure, hread, hfilled, Bool.and_false, Bool.false_and, Bool.false_eq_true,
      if_false, readUser_text huser hpassword]
    cases a.host.isReadable with
    | true => simp [hsome]
    | false => rfl

/-- A text that is a host alone. -/
theorem readAuthority_host {scheme : String} {cs : List Char} {h : Host} (hread : specialHost cs = .ok h) (hfilled : cs ≠ [])
    (hchars : ∀ c ∈ cs, IsInner c ∧ c ≠ ':' ∧ c ≠ '[' ∧ c ≠ ']') (isLast : Bool) :
    readAuthority scheme .web isLast cs = .ok (⟨"", none, h, none⟩, []) := by
  have hcut : cutPort false (cs ++ []) = (cs ++ [], []) := cutPort_name fun c hc => (hchars c hc).2
  have hsome := (specialHost_text hread).1.isEmpty_eq
  have hfilled : cs.isEmpty = false := by rwa [List.isEmpty_eq_false_iff]
  rw [List.append_nil] at hcut
  rw [readAuthority, splitUser_none fun hc => (hchars '@' hc).1.noUser rfl, readHost, hcut]
  simp only [bind, Except.bind, pure, Except.pure, throw, throwThe, MonadExceptOf.throw, Family.isSpecial, if_true,
    hfilled, hread, hsome, Bool.and_false, Bool.false_and, Bool.false_eq_true, if_false]
  rfl

theorem Authority.IsKept.inner {scheme : String} {a : Authority} (h : a.IsKept scheme) :
    a.text.toList ≠ [] ∧ ∀ c ∈ a.text.toList, endsAuthority .web c = false ∧ isIgnored c = false := by
  obtain ⟨huser, hpassword, ⟨cs, hhost⟩, hport⟩ := h
  have htext := (specialHost_text hhost).1.hostText
  have hboth {c : Char} (hc : IsInner c) : endsAuthority .web c = false ∧ isIgnored c = false := ⟨hc.inside, hc.counted⟩
  rw [a.toList_text]
  refine ⟨by simp [htext.filled], fun c hc => ?_⟩
  rcases List.mem_append.mp hc with hc | hc
  · split at hc
    · cases hc
    · rcases List.mem_append.mp hc with hc | hc
      · rcases List.mem_append.mp hc with hc | hc
        · exact hboth (mem_userSet (huser c hc)).1
        · cases hpass : a.password with
          | none =>
            rw [hpass] at hc
            cases hc
          | some p =>
            rw [hpass] at hc
            rcases List.mem_cons.mp hc with rfl | hc
            · decide
            · exact hboth (mem_userSet ((hpassword p hpass).1 c hc)).1
      · rw [List.mem_singleton.mp hc]
        decide
  · rcases List.mem_append.mp hc with hc | hc
    · exact hboth (htext.inner c hc)
    · exact hboth (portText_inner a.port c hc)

end Courier.Url
