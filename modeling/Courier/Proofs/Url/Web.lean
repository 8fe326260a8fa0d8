import Mathlib.Data.List.Induction
import Courier.Proofs.Url.Authority
import Courier.Proofs.Url.Path

/-! URLs of the web are read back.

    What stands behind the slash after an authority is path, query and fragment, whatever it is: it
    changes nothing about scheme and authority (`ofText_server`). -/

namespace Courier.Url

/-- A scheme whose URLs are requested. -/
def IsWebScheme (scheme : String) : Prop := scheme = "http" ∨ scheme = "https"

/-- A URL of the web that was read. -/
structure IsKept (u : Url) (a : Authority) : Prop where
  authority : u.authority = some a
  kept : a.IsKept u.scheme
  shielded : u.isShielded = false
  path : SettledPath u.path.toList
  query : ∀ q, u.query = some q → Settled specialQuerySet q.toList
  fragment : ∀ f, u.fragment = some f → Settled fragmentSet f.toList

theorem IsWebScheme.family {scheme : String} (h : IsWebScheme scheme) : familyOf scheme = .web := by
  rcases h with rfl | rfl <;> decide +kernel

theorem cutScheme_web {scheme : String} (h : IsWebScheme scheme) (rest : List Char) :
    cutScheme [] (scheme.toList ++ ':' :: rest) = some (scheme, rest) := by
  rcases h with rfl | rfl <;> rfl

theorem ofText_kept {text : String} {u : Url} (h : ofText text = .ok u) (hscheme : IsWebScheme u.scheme) :
    ∃ a, u.IsKept a := by
  have hquery : ∀ c ∈ percentSigns, c ∉ specialQuerySet := List.all_iff_forall_prop.mp (by decide)
  have hfragment : ∀ c ∈ percentSigns, c ∉ fragmentSet := List.all_iff_forall_prop.mp (by decide)
  rw [ofText] at h
  split at h
  · cases h
  · next scheme rest _ =>
    simp only [bind, Except.bind, pure, Except.pure] at h
    split at h
    · cases h
    · next hierarchy hread =>
      obtain rfl := Except.ok.inj h
      dsimp only at hscheme ⊢
      rw [readHierarchy, hscheme.family] at hread
      simp only [readServer, bind, Except.bind, pure, Except.pure] at hread
      split at hread
      · cases hread
      · next server hserver =>
        obtain rfl := Except.ok.inj hread
        refine ⟨server.1, rfl, readAuthority_kept hserver, rfl, read_settled _, fun q hq => ?_, fun f hf => ?_⟩
        · obtain ⟨cs, -, rfl⟩ := Option.map_eq_some_iff.mp hq
          rw [hscheme.family]
          exact percent_settled hquery _
        · obtain ⟨cs, -, rfl⟩ := Option.map_eq_some_iff.mp hf
          exact percent_settled hfragment _

/-! ### Reading on behind an authority -/

/-- The text without blanks and controls at its end. -/
def trimmedEnd (cs : List Char) : List Char := (cs.reverse.dropWhile fun c => decide (c.toNat ≤ 32)).reverse

theorem trimmedEnd_append (xs : List Char) {d : Char} (hd : 32 < d.toNat) (ys : List Char) :
    trimmedEnd (xs ++ d :: ys) = xs ++ d :: trimmedEnd ys := by
  have hstop : ([d] ++ xs.reverse).dropWhile (fun c => decide (c.toNat ≤ 32)) = [d] ++ xs.reverse := by
    simp [Nat.not_le.mpr hd]
  rw [trimmedEnd, trimmedEnd, List.reverse_append, List.reverse_cons, List.append_assoc, List.dropWhile_append, hstop]
  split
  · next hnone => simp [List.isEmpty_iff.mp hnone]
  · simp

theorem trimmedEnd_eq {cs : List Char} (h : ∀ c ∈ cs, 32 < c.toNat) : trimmedEnd cs = cs := by
  induction cs using List.reverseRecOn with
  | nil => rfl
  | append_singleton cs c => exact trimmedEnd_append cs (h c (by simp)) []

theorem cutBefore_append {mark : Char} {xs : List Char} (h : mark ∉ xs) (ys : List Char) :
    cutBefore mark (xs ++ ys) = (xs ++ (cutBefore mark ys).1, (cutBefore mark ys).2) := by
  have hxs : ∀ c ∈ xs, (c != mark) = true := fun c hc => by
    rw [bne_iff_ne]
    rintro rfl
    exact h hc
  simp only [cutBefore, List.span_eq_takeWhile_dropWhile, List.takeWhile_append_of_pos hxs,
    List.dropWhile_append_of_pos hxs]

/-- The URL of what stands behind an authority: path, query and fragment. -/
def ofServer (scheme : String) (a : Authority) (cs : List Char) : Url :=
  let (beforeFragment, fragment) := cutBefore '#' cs
  let (path, query) := cutBefore '?' beforeFragment
  ⟨scheme, some a, false, (Trail.behindAuthority .web path).text .web,
    query.map fun cs => percent specialQuerySet (visible cs), fragment.map fun cs => percent fragmentSet (visible cs)⟩

@[simp] theorem ofServer_scheme (scheme : String) (a : Authority) (cs : List Char) :
    (ofServer scheme a cs).scheme = scheme := rfl

@[simp] theorem ofServer_authority (scheme : String) (a : Authority) (cs : List Char) :
    (ofServer scheme a cs).authority = some a := rfl

section server

variable {scheme : String} (hscheme : IsWebScheme scheme) {cs : List Char} (hfilled : cs ≠ [])
  (hinner : ∀ c ∈ cs, endsAuthority .web c = false ∧ isIgnored c = false) {server : Except Fault Authority}
  (hserver : readAuthority scheme .web false cs = server.map fun a => (a, []))

include hscheme hfilled hinner hserver

theorem readHierarchy_server (isLast : Bool) (path : List Char) :
    readHierarchy scheme isLast ('/' :: '/' :: (cs ++ '/' :: path)) =
      server.map fun a => ⟨some a, (Trail.behindAuthority .web ('/' :: path)).text .web⟩ := by
  have hvisible : visible cs = cs := List.filter_eq_self.mpr fun c hc => by
    rw [(hinner c hc).2]
    rfl
  have hslashes : ('/' :: '/' :: (cs ++ '/' :: path)).dropWhile (fun c => isSlash .web c || isIgnored c)
      = cs ++ '/' :: path := by
    obtain ⟨c, rest, hauthority⟩ := List.exists_cons_of_ne_nil hfilled
    obtain ⟨hends, hcounted⟩ := hinner c (hauthority ▸ .head _)
    have hslash : isSlash .web c = false := by
      simp only [endsAuthority, Bool.or_eq_false_iff] at hends
      exact hends.1.1
    have hfirst : (isSlash .web '/' || isIgnored '/') = true := rfl
    rw [hauthority, List.dropWhile_cons, if_pos hfirst, List.dropWhile_cons, if_pos hfirst, List.cons_append,
      List.dropWhile_cons, hslash, hcounted, Bool.or_false, if_neg Bool.false_ne_true]
  have hspan : (cs ++ '/' :: path).span (fun c => !endsAuthority .web c) = (cs, '/' :: path) := by
    refine span_append (fun c hc => by rw [(hinner c hc).1]; rfl) fun c hc => ?_
    obtain rfl := Option.some.inj hc
    rfl
  have hmore : (visible ('/' :: path)).isEmpty = false := rfl
  rw [readHierarchy, hscheme.family]
  dsimp only
  rw [hslashes, readServer, hspan]
  simp only [hvisible, hmore, Bool.and_false, hserver, bind, Except.bind, pure, Except.pure]
  cases server <;> rfl

/-- The text of a scheme and an authority, and what a slash behind them begins. -/
theorem ofText_server {text : String} {rest : List Char}
    (htext : text.toList = scheme.toList ++ ':' :: '/' :: '/' :: (cs ++ '/' :: rest)) :
    ofText text = server.map fun a => ofServer scheme a (trimmedEnd ('/' :: rest)) := by
  have hslash : trimmedEnd ('/' :: rest) = '/' :: trimmedEnd rest := trimmedEnd_append [] (by decide) rest
  have htrimmed : trimmedText text = scheme.toList ++ ':' :: '/' :: '/' :: (cs ++ '/' :: trimmedEnd rest) := by
    have hstart : text.toList.dropWhile (fun c => decide (c.toNat ≤ 32)) = text.toList := by
      rw [htext]
      rcases hscheme with rfl | rfl <;> rfl
    have hend := trimmedEnd_append (scheme.toList ++ ':' :: '/' :: '/' :: cs) (d := '/') (by decide) rest
    have hsplit : scheme.toList ++ ':' :: '/' :: '/' :: (cs ++ '/' :: rest)
        = (scheme.toList ++ ':' :: '/' :: '/' :: cs) ++ '/' :: rest := by simp
    simp only [trimmedText, hstart]
    rw [htext, hsplit]
    exact hend.trans (by simp)
  -- neither sign stands in front of the path, nor is it the slash
  have hcut (mark : Char) (hends : endsAuthority .web mark = true) (hslash : mark ≠ '/') (path : List Char) :
      cutBefore mark ('/' :: '/' :: (cs ++ '/' :: path)) =
          ('/' :: '/' :: (cs ++ '/' :: (cutBefore mark path).1), (cutBefore mark path).2) ∧
        cutBefore mark ('/' :: path) = ('/' :: (cutBefore mark path).1, (cutBefore mark path).2) := by
    have hmark : mark ∉ '/' :: '/' :: (cs ++ ['/']) := fun hmem => by
      simp only [List.mem_cons, List.mem_append, List.not_mem_nil, or_false, hslash, false_or] at hmem
      rw [(hinner mark hmem).1] at hends
      cases hends
    have hfirst : mark ∉ ['/'] := by simpa using hslash
    exact ⟨by simpa using cutBefore_append hmark path, cutBefore_append hfirst path⟩
  rw [ofText, htrimmed, cutScheme_web hscheme, hslash]
  simp only [(hcut '#' rfl (by decide) _).1, (hcut '?' rfl (by decide) _).1,
    readHierarchy_server hscheme hfilled hinner hserver, hscheme.family, bind, Except.bind, pure, Except.pure,
    Family.isSpecial]
  cases server with
  | error f => rfl
  | ok a =>
    simp only [Except.map, ofServer, (hcut '#' rfl (by decide) _).2, (hcut '?' rfl (by decide) _).2]
    rfl

end server

/-- A URL with an authority that was read is read if the labels of the host are short enough. -/
theorem ofText_authority {scheme : String} (hscheme : IsWebScheme scheme) {a : Authority} (h : a.IsKept scheme)
    {text : String} {rest : List Char}
    (htext : text.toList = scheme.toList ++ ':' :: '/' :: '/' :: (a.text.toList ++ '/' :: rest)) :
    ofText text = if a.host.isReadable then .ok (ofServer scheme a (trimmedEnd ('/' :: rest))) else .error .invalidDomain := by
  obtain ⟨hfilled, hinner⟩ := h.inner
  have hserver : readAuthority scheme .web false a.text.toList =
      (if a.host.isReadable then .ok a else .error .invalidDomain : Except Fault Authority).map fun a => (a, []) := by
    rw [readAuthority_text h]
    split <;> rfl
  rw [ofText_server hscheme hfilled hinner hserver htext]
  split <;> rfl

/-- A host of ideographs is accepted, however long its encoding is. -/
theorem ofText_ideographs {cs : List Char} (h : ∀ c ∈ cs, IsIdeograph c) (hfilled : cs ≠ [])
    (hshort : cs.length ≤ longestDecoded) : ofText (String.ofList ("http://".toList ++ cs ++ ['/'])) =
      .ok (ofServer "http" ⟨"", none, .name (String.ofList (foreignMark ++ Punycode.encode cs)), none⟩ ['/']) := by
  have hinner (c : Char) (hc : c ∈ cs) : IsInner c ∧ c ≠ ':' ∧ c ≠ '[' ∧ c ≠ ']' := (h c hc).inner
  have hserver : readAuthority "http" .web false cs =
      (.ok ⟨"", none, .name (String.ofList (foreignMark ++ Punycode.encode cs)), none⟩ : Except Fault Authority).map
        fun a => (a, []) := readAuthority_host (specialHost_ideographs h hfilled hshort) hfilled hinner false
  have htext : (String.ofList ("http://".toList ++ cs ++ ['/'])).toList = "http".toList ++ ':' :: '/' :: '/' :: (cs ++ '/' :: []) := by
    simp
  have hread := ofText_server (.inl rfl) hfilled (fun c hc => ⟨(hinner c hc).1.inside, (hinner c hc).1.counted⟩) hserver htext
  have hslash : trimmedEnd ['/'] = ['/'] := trimmedEnd_eq (List.all_iff_forall_prop.mp (by decide))
  rw [hread, hslash]
  rfl

end Courier.Url
