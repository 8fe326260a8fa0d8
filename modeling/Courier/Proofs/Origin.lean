import Courier.Proofs.Target
import Courier.Proofs.Url.Web

/-! Requests stay with the target.

    A path stands behind the target's authority and a slash, so that nothing in it is read as part of the
    authority, whatever it holds (`request_origin`). The target is read once more with each path. This
    fails for a host with an encoded label that is too long to be decoded, though such a host is accepted
    as a target: its labels are written in ASCII without a look at their length. -/

namespace Courier

open Url (IsWebScheme Authority)

/-! ### The text of a target -/

namespace Url

/-- Whether the encoded labels of the host are short enough to be decoded. -/
def hasReadableHost (u : Url) : Bool := u.authority.all (·.host.isReadable)

/-- What is written behind the authority. -/
def tail (u : Url) : List Char := u.path.toList ++ (behind "?" u.query).toList ++ (behind "#" u.fragment).toList

theorem IsKept.toList_text {u : Url} {a : Authority} (h : u.IsKept a) :
    u.text.toList = u.scheme.toList ++ ':' :: '/' :: '/' :: (a.text.toList ++ u.tail) := by
  simp [text, front, tail, h.authority, h.shielded, behind]

theorem IsKept.tail_first {u : Url} {a : Authority} (h : u.IsKept a) : ∃ rest, u.tail = '/' :: rest := by
  have hfirst := h.path.1
  cases hpath : u.path.toList with
  | nil => simp [hpath] at hfirst
  | cons c cs =>
    rw [hpath] at hfirst
    obtain rfl := Option.some.inj hfirst
    exact ⟨_, by rw [tail, hpath, List.append_assoc, List.cons_append]⟩

end Url

/-- A text without its closing slashes. -/
def withoutSlashes (cs : List Char) : List Char := (cs.reverse.dropWhile (· == '/')).reverse

theorem withoutSlashes_append {xs : List Char} (h : xs.getLast? ≠ some '/') (ys : List Char) :
    withoutSlashes (xs ++ ys) = xs ++ withoutSlashes ys := by
  have hstay : xs.reverse.dropWhile (· == '/') = xs.reverse := by
    rw [← List.head?_reverse] at h
    cases hxs : xs.reverse with
    | nil => rfl
    | cons c cs =>
      rw [hxs] at h
      have hc : (c == '/') = false := by simpa using h
      rw [List.dropWhile_cons, hc, if_neg Bool.false_ne_true]
  rw [withoutSlashes, withoutSlashes, List.reverse_append, List.dropWhile_append, hstay]
  split
  · next hnone => simp [List.isEmpty_iff.mp hnone]
  · simp

theorem withoutSlashes_prefix (cs : List Char) : ∃ n, cs = withoutSlashes cs ++ List.replicate n '/' := by
  obtain ⟨n, hn, -⟩ := Client.dropWhile_slashes cs.reverse
  refine ⟨n, ?_⟩
  have hreverse := congrArg List.reverse hn
  rwa [List.reverse_reverse, List.reverse_append, List.reverse_replicate] at hreverse

namespace Client

/-- A path without its opening slashes. -/
def relativePart (path : String) : List Char := path.toList.dropWhile (· == '/')

variable {W : Type} {target : Url} {a : Authority}

theorem toList_behindTarget (h : target.IsKept a) (path : String) : (behindTarget target path).toList =
    target.scheme.toList ++ ':' :: '/' :: '/' :: (a.text.toList ++ (withoutSlashes target.tail ++ '/' :: relativePart path)) := by
  obtain ⟨hfilled, hinner⟩ := h.kept.inner
  have hlast : (target.scheme.toList ++ ':' :: '/' :: '/' :: a.text.toList).getLast? ≠ some '/' := by
    have hend : (target.scheme.toList ++ ':' :: '/' :: '/' :: a.text.toList).getLast? = a.text.toList.getLast? := by
      rw [List.getLast?_append, List.getLast?_cons_cons, List.getLast?_cons_cons, List.getLast?_cons,
        List.getLast?_eq_some_getLast hfilled]
      rfl
    rw [hend]
    intro hslash
    have hends := (hinner '/' (List.mem_of_getLast? hslash)).1
    cases hends
  have hbase : (baseText target).toList = withoutSlashes target.text.toList := String.toList_ofList
  have hsplit : target.text.toList = (target.scheme.toList ++ ':' :: '/' :: '/' :: a.text.toList) ++ target.tail := by
    rw [h.toList_text]
    simp
  rw [behindTarget, String.toList_append, String.toList_append, hbase, hsplit, withoutSlashes_append hlast,
    String.toList_ofList]
  simp [relativePart]

/-- What stands behind the authority begins with a slash. -/
theorem tail_slash (h : target.IsKept a) (cs : List Char) : ∃ rest, withoutSlashes target.tail ++ '/' :: cs = '/' :: rest := by
  obtain ⟨rest, htail⟩ := h.tail_first
  obtain ⟨n, hn⟩ := withoutSlashes_prefix target.tail
  rw [htail] at hn ⊢
  cases hfront : withoutSlashes ('/' :: rest) with
  | nil => exact ⟨cs, rfl⟩
  | cons c front =>
    rw [hfront] at hn
    exact ⟨front ++ '/' :: cs, by rw [(List.cons.inj hn).1]; rfl⟩

/-- A path behind a target of the web is read as what stands behind the target's authority. -/
theorem request_behind (h : target.IsKept a) (hscheme : IsWebScheme target.scheme) (c : Client W)
    (hc : c.target = some target) (method : Http.Method) {path : String} (hpath : ¬ authoritySign <:+: path.toList) :
    c.request method path = if target.hasReadableHost then .ok (Request.make method
        (Url.ofServer target.scheme a (Url.trimmedEnd (withoutSlashes target.tail ++ '/' :: relativePart path))))
      else .error (Request.invalidUri (behindTarget target path) .invalidDomain) := by
  obtain ⟨rest, hrest⟩ := tail_slash h (relativePart path)
  have htext := toList_behindTarget h path
  have hreadable : target.hasReadableHost = a.host.isReadable := by
    rw [Url.hasReadableHost, h.authority]
    rfl
  rw [hrest] at htext ⊢
  rw [c.request_eq hc, if_neg hpath, Request.parse, Url.ofText_authority hscheme h.kept htext, hreadable]
  cases a.host.isReadable <;> rfl

/-- The target of a blueprint was read. -/
theorem ofText_target {b b' : Blueprint W} {text : String} (haccepted : b.withTarget text = .ok b')
    (htarget : b'.target = some target) : Url.ofText text = .ok target := by
  rw [Blueprint.withTarget] at haccepted
  split at haccepted
  · next u hu =>
    rw [← Except.ok.inj haccepted] at htarget
    rw [hu, Option.some.inj htarget]
  · cases haccepted

/-- A request for a path that holds no sign of an authority goes to the target's server, as the target's
    user, unless the target's host cannot be read again. -/
theorem request_origin {b b' : Blueprint W} {text : String} (haccepted : b.withTarget text = .ok b') (c : Client W)
    (hc : c.target = b'.target) (htarget : b'.target = some target) (hscheme : IsWebScheme target.scheme)
    (method : Http.Method) {path : String} (hpath : ¬ authoritySign <:+: path.toList) :
    (target.hasReadableHost = true → ∃ r, c.request method path = .ok r ∧ r.uri.scheme = target.scheme ∧
        r.uri.authority = target.authority) ∧
      (target.hasReadableHost = false →
        c.request method path = .error (Request.invalidUri (behindTarget target path) .invalidDomain)) := by
  obtain ⟨a, hkept⟩ := Url.ofText_kept (ofText_target haccepted htarget) hscheme
  have hrequest := request_behind hkept hscheme c (hc.trans htarget) method hpath
  refine ⟨fun hreadable => ?_, fun hlong => ?_⟩
  · rw [hreadable, if_pos rfl] at hrequest
    exact ⟨_, hrequest, Url.ofServer_scheme _ _ _, (Url.ofServer_authority _ _ _).trans hkept.authority.symm⟩
  · rwa [hlong, if_neg Bool.false_ne_true] at hrequest

/-- A user of a server, as a target is written. -/
def userText : String := "http://user@h/a/"

/-- The user of that server. -/
def userAtHost : Authority := ⟨"user", none, .name "h", none⟩

theorem userAtHost_kept : userAtHost.IsKept "http" := by
  have hwritten : Url.IsWritten ['h'] := by decide
  have hhost : Url.specialHost ['h'] = .ok (.name "h") :=
    Url.specialHost_written hwritten (Url.domain?_ascii hwritten (by decide)) nofun
  refine ⟨?_, nofun, ⟨['h'], hhost⟩, nofun⟩
  exact List.all_iff_forall_prop.mp (by decide)

theorem userText_accepted : Url.ofText userText = .ok (Url.ofServer "http" userAtHost ['/', 'a', '/']) := by
  have htext : userText.toList = "http".toList ++ ':' :: '/' :: '/' :: (userAtHost.text.toList ++ '/' :: ['a', '/']) := by
    decide +kernel
  have hreadable : userAtHost.host.isReadable = true := by decide +kernel
  have hend : Url.trimmedEnd ['/', 'a', '/'] = ['/', 'a', '/'] := Url.trimmedEnd_eq (List.all_iff_forall_prop.mp (by decide))
  rw [Url.ofText_authority (.inl rfl) userAtHost_kept htext, hreadable, if_pos rfl, hend]

/-- A client of a target, with nothing behind it. -/
def clientOf (target : Url) : Client Unit := ⟨⟨"", fun _ w => (w, .error (.other ""))⟩, some target, ⟨"m", .mono⟩⟩

/-- The target with that user. -/
def userTarget : Url := Url.ofServer "http" userAtHost ['/', 'a', '/']

/-- Backslashes and an `@` of the path do not change where the request goes. -/
theorem origin_of_backslashes : ∃ b : Blueprint Unit, (Blueprint.ofEndpoint ⟨"m", .mono⟩).withTarget userText = .ok b ∧
    (clientOf userTarget).target = b.target ∧ b.target = some userTarget ∧ IsWebScheme userTarget.scheme ∧
      ¬ authoritySign <:+: "\\\\evil@x/../y".toList ∧ userTarget.hasReadableHost = true ∧
      ∃ r, (clientOf userTarget).request .get "\\\\evil@x/../y" = .ok r ∧ r.uri.scheme = "http" ∧
        r.uri.authority = some userAtHost := by
  have haccepted : (Blueprint.ofEndpoint ⟨"m", .mono⟩ : Blueprint Unit).withTarget userText =
      .ok { Blueprint.ofEndpoint ⟨"m", .mono⟩ with target := some userTarget } := by
    rw [Blueprint.withTarget, userText_accepted]
    rfl
  have hpath : ¬ authoritySign <:+: "\\\\evil@x/../y".toList := by decide +kernel
  have hreadable : userTarget.hasReadableHost = true := by decide +kernel
  refine ⟨_, haccepted, rfl, rfl, .inl rfl, hpath, hreadable, ?_⟩
  exact (request_origin haccepted (clientOf userTarget) rfl rfl (.inl rfl) .get hpath).1 hreadable

/-! ### A target that is accepted and never requested -/

/-- A label of ideographs, short enough to be encoded. -/
def longLabel : List Char := (List.range 750).map fun i => Char.ofNat (0x20000 + 50 * i)

/-- The text of a server with that label for a name. -/
def longText : String := String.ofList ("http://".toList ++ longLabel ++ ['/'])

theorem longLabel_numbers : longLabel.map Char.toNat = (List.range 750).map fun i => 0x20000 + 50 * i := by
  rw [longLabel, List.map_map]
  refine List.map_congr_left fun i hi => ?_
  have hvalid : (0x20000 + 50 * i).isValidChar := by
    have hbound := List.mem_range.mp hi
    simp only [Nat.isValidChar]
    omega
  rw [Function.comp_apply, Char.ofNat, dif_pos hvalid]
  rfl

theorem longLabel_ideographs : ∀ c ∈ longLabel, Url.IsIdeograph c := by
  intro c hc
  have hnumber : c.toNat ∈ longLabel.map Char.toNat := List.mem_map_of_mem hc
  rw [longLabel_numbers] at hnumber
  obtain ⟨i, hi, hsame⟩ := List.mem_map.mp hnumber
  have hbound := List.mem_range.mp hi
  exact ⟨by omega, by omega⟩

theorem longLabel_short : longLabel.length ≤ Url.longestDecoded := by
  rw [longLabel, List.length_map, List.length_range]
  decide

theorem longLabel_filled : longLabel ≠ [] := by
  simp [longLabel]

theorem longLabel_unreadable : Url.isReadable (Url.foreignMark ++ Url.Punycode.encode longLabel) = false := by
  have hsorted : (longLabel.map Char.toNat).Pairwise (· < ·) := by
    rw [longLabel_numbers, List.pairwise_map]
    exact List.pairwise_lt_range.imp fun h => by omega
  have hbeyond : ∀ c ∈ longLabel, 128 ≤ c.toNat := fun c hc => Nat.le_trans (by decide) (longLabel_ideographs c hc).1
  have hleast : 2000 < Url.Punycode.leastLength 128 0 (longLabel.map Char.toNat) := by
    rw [longLabel_numbers]
    decide +kernel
  have hlong := Nat.lt_of_lt_of_le hleast (Url.Punycode.encode_length hsorted hbeyond)
  rw [Url.isReadable_foreign, decide_eq_false_iff_not]
  exact Nat.not_le.mpr hlong

/-- The server with that label for a name. -/
def longServer : Authority := ⟨"", none, .name (String.ofList (Url.foreignMark ++ Url.Punycode.encode longLabel)), none⟩

theorem longText_accepted : Url.ofText longText = .ok (Url.ofServer "http" longServer ['/']) :=
  Url.ofText_ideographs longLabel_ideographs longLabel_filled longLabel_short

theorem longServer_unreadable : (Url.ofServer "http" longServer ['/']).hasReadableHost = false := by
  have hhost : longServer.host = .name (String.ofList (Url.foreignMark ++ Url.Punycode.encode longLabel)) := rfl
  rw [Url.hasReadableHost, Url.ofServer_authority, Option.all_some, hhost,
    Url.isReadable_ideographs longLabel_ideographs, longLabel_unreadable]

/-- The target with that server. -/
def longTarget : Url := Url.ofServer "http" longServer ['/']

/-- The target is accepted, and a request for a path behind it is refused. -/
theorem refused_of_longLabel : ∃ b : Blueprint Unit, (Blueprint.ofEndpoint ⟨"m", .mono⟩).withTarget longText = .ok b ∧
    (clientOf longTarget).target = b.target ∧ b.target = some longTarget ∧ IsWebScheme longTarget.scheme ∧
      ¬ authoritySign <:+: "x".toList ∧
      (clientOf longTarget).request .get "x" = .error (Request.invalidUri (behindTarget longTarget "x") .invalidDomain) := by
  have haccepted : (Blueprint.ofEndpoint ⟨"m", .mono⟩ : Blueprint Unit).withTarget longText =
      .ok { Blueprint.ofEndpoint ⟨"m", .mono⟩ with target := some longTarget } := by
    rw [Blueprint.withTarget, longText_accepted, longTarget]
  have hpath : ¬ authoritySign <:+: "x".toList := by decide +kernel
  have hunreadable : longTarget.hasReadableHost = false := longServer_unreadable
  obtain ⟨a, hkept⟩ := Url.ofText_kept longText_accepted (.inl rfl)
  refine ⟨_, haccepted, rfl, rfl, .inl rfl, hpath, ?_⟩
  have hrequest := request_behind hkept (.inl rfl) (clientOf longTarget) rfl .get hpath
  rwa [← longTarget, hunreadable, if_neg Bool.false_ne_true] at hrequest

end Client
end Courier
