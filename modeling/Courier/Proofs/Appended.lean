import Courier.Proofs.Origin

/-! Paths behind the target.

    A path is joined to the text of the target, so it ends the last part of it: the path, if the target has
    neither query nor fragment, and else one of these (`request_appended`). The path of such a target stays
    as it is, whatever is requested. -/

namespace Courier

open Url (IsWebScheme Authority Settled SettledSegment SettledPath)

/-- A text without its closing slashes, a slash, and a path without its opening slashes. -/
def joinPath (base path : String) : String :=
  String.ofList (withoutSlashes base.toList ++ '/' :: Client.relativePart path)

/-- A letter or a digit of ASCII, or one of the signs that need no encoding. -/
def IsUnreserved (c : Char) : Prop :=
  ('a' ≤ c ∧ c ≤ 'z') ∨ ('A' ≤ c ∧ c ≤ 'Z') ∨ ('0' ≤ c ∧ c ≤ '9') ∨ c ∈ ['-', '.', '_', '~']

instance (c : Char) : Decidable (IsUnreserved c) := inferInstanceAs (Decidable (_ ∨ _))

/-- Slashes and unreserved characters, with no dot segment between the slashes. -/
def IsRelative (cs : List Char) : Prop :=
  (∀ c ∈ cs, c = '/' ∨ IsUnreserved c) ∧ ∀ s ∈ cs.splitOn '/', s ≠ ['.'] ∧ s ≠ ['.', '.']

instance (cs : List Char) : Decidable (IsRelative cs) :=
  @instDecidableAnd _ _ (List.decidableBAll _ _) (List.decidableBAll _ _)

/-! ### Segments of joined paths -/

theorem mem_withoutSlashes {cs : List Char} {c : Char} (h : c ∈ withoutSlashes cs) : c ∈ cs := by
  obtain ⟨n, hn⟩ := withoutSlashes_prefix cs
  rw [hn]
  exact List.mem_append_left _ h

/-- Without the closing slashes there are no other segments. -/
theorem splitOn_withoutSlashes {cs s : List Char} (h : s ∈ (withoutSlashes cs).splitOn '/') : s ∈ cs.splitOn '/' := by
  obtain ⟨n, hn⟩ := withoutSlashes_prefix cs
  rw [hn]
  cases n with
  | zero => simpa using h
  | succ n =>
    rw [List.replicate_succ, List.splitOn_append_cons_self]
    exact List.mem_append_left _ h

/-- Nor are there without the opening slashes. -/
theorem splitOn_relativePart {path : String} {s : List Char} (h : s ∈ (Client.relativePart path).splitOn '/') :
    s ∈ path.toList.splitOn '/' := by
  obtain ⟨n, hn, -⟩ := Client.dropWhile_slashes path.toList
  rw [hn]
  cases n with
  | zero => simpa [Client.relativePart] using h
  | succ n =>
    rw [List.replicate_succ', List.append_assoc, List.singleton_append, List.splitOn_append_cons_self]
    exact List.mem_append_right _ h

/-! ### Characters of relative paths -/

/-- A character that stays as it is in every part of a URL, and does not stand for another one. -/
structure IsClear (c : Char) : Prop where
  printable : 32 < c.toNat ∧ c.toNat ≤ 126
  outside : c ∉ Url.pathSet ++ Url.specialQuerySet ++ ['/', '\\', ':']
  noPercent : c.toLower ≠ '%'
  noDot : c.toLower = '.' → c = '.'

theorem IsUnreserved.isClear {c : Char} (h : IsUnreserved c) : IsClear c := by
  have hlow : c.toNat < 128 := by
    have hbelow {d : Char} (hd : d.toNat < 128) (hc : c ≤ d) : c.toNat < 128 := Nat.lt_of_le_of_lt hc hd
    rcases h with ⟨-, h⟩ | ⟨-, h⟩ | ⟨-, h⟩ | h
    · exact hbelow (by decide) h
    · exact hbelow (by decide) h
    · exact hbelow (by decide) h
    · have hsigns : ∀ c ∈ ['-', '.', '_', '~'], c.toNat < 128 := List.all_iff_forall_prop.mp (by decide)
      exact hsigns c h
  obtain ⟨hprintable, houtside, hpercent, hdot⟩ := Text.ascii_forall
    (P := fun c => IsUnreserved c → (32 < c.toNat ∧ c.toNat ≤ 126) ∧
      c ∉ Url.pathSet ++ Url.specialQuerySet ++ ['/', '\\', ':'] ∧ c.toLower ≠ '%' ∧ (c.toLower = '.' → c = '.'))
    (by decide +kernel) hlow h
  exact ⟨hprintable, houtside, hpercent, hdot⟩

namespace Url

/-- The URL with a path at the end of its last part. -/
def appended (u : Url) (path : String) : Url := match u.fragment, u.query with
  | some f, _ => { u with fragment := some (joinPath f path) }
  | none, some q => { u with query := some (joinPath q path) }
  | none, none => { u with path := joinPath u.path path }

/-! ### What is read behind an authority -/

theorem cutBefore_behind {mark : Char} {sign : String} (hsign : sign.toList = [mark]) {xs : List Char} (h : mark ∉ xs)
    (part : Option String) : cutBefore mark (xs ++ (behind sign part).toList) = (xs, part.map String.toList) := by
  rw [cutBefore_append h]
  cases part with
  | none => simp [behind, cutBefore]
  | some s => simp [behind, cutBefore, hsign]

theorem encode_part {set : List Char} {part : Option String} (h : ∀ s, part = some s → Settled set s.toList) :
    ((part.map String.toList).map fun cs => percent set (visible cs)) = part := by
  cases part with
  | none => rfl
  | some s =>
    have hs := h s rfl
    rw [Option.map_some, Option.map_some, hs.visible, hs.percent, String.ofList_toList]

theorem SettledPath.not_mem {cs : List Char} (h : SettledPath cs) {c : Char} (hset : c ∈ pathSet) (hslash : c ≠ '/') :
    c ∉ cs := fun hc => by
  rcases splitOn_of_mem (a := '/') c hc with hsame | ⟨s, hs, hmem⟩
  · exact hslash hsame
  · exact ((h.2 s hs).settled c hmem).2.2 hset

theorem settledSegment_unreserved {s : List Char} (h : ∀ c ∈ s, IsUnreserved c) (hdots : s ≠ ['.'] ∧ s ≠ ['.', '.']) :
    SettledSegment s := by
  -- the signs that could stand for dots hold a percent sign, or are dots
  have hlower : (String.ofList s).toLower.toList = s.map Char.toLower := by
    have hmap : (String.ofList s).toLower = (String.ofList s).map Char.toLower := rfl
    rw [hmap, String.toList_map, String.toList_ofList]
  have hpercent : '%' ∉ s.map Char.toLower := fun hc => by
    obtain ⟨c, hc, hsame⟩ := List.mem_map.mp hc
    exact (h c hc).isClear.noPercent hsame
  have hdouble : s.map Char.toLower ≠ ['.', '.'] := fun hsame => by
    obtain ⟨c, more, rfl, hc, hmore⟩ := List.map_eq_cons_iff.mp hsame
    obtain ⟨d, rest, rfl, hd, hrest⟩ := List.map_eq_cons_iff.mp hmore
    obtain rfl := List.map_eq_nil_iff.mp hrest
    obtain rfl := (h c (by simp)).isClear.noDot hc
    obtain rfl := (h d (by simp)).isClear.noDot hd
    exact hdots.2 rfl
  have hlowered (text : String) (htext : '%' ∈ text.toList) : (String.ofList s).toLower ≠ text := fun hsame => by
    rw [← hsame, hlower] at htext
    exact hpercent htext
  have hout {c : Char} (hc : c ∈ pathSet ++ specialQuerySet ++ ['/', '\\', ':']) : c ∉ s := fun hmem =>
    (h c hmem).isClear.outside hc
  refine ⟨fun c hc => ?_, ⟨hout (by decide), hout (by decide)⟩, ?_, ?_⟩
  · obtain ⟨⟨hfrom, hto⟩, hnone, -, -⟩ := (h c hc).isClear
    exact ⟨Nat.le_of_lt hfrom, hto, fun hset => hnone (by simp [hset])⟩
  · have hdot : String.ofList s ≠ "." := fun hsame => hdots.1 (String.ofList_inj.mp hsame)
    simp [isDot, hdot, hlowered "%2e" (by decide)]
  · have hdots : (String.ofList s).toLower ≠ ".." := fun hsame => hdouble (by rw [← hlower, hsame]; rfl)
    simp [isDoubleDot, hdots, hlowered ".%2e" (by decide), hlowered "%2e." (by decide),
      hlowered "%2e%2e" (by decide)]

/-- A joined part holds no more characters to encode. -/
theorem joinPath_settled {set : List Char} (hset : set ⊆ pathSet ++ specialQuerySet) {base path : String}
    (h : Settled set base.toList) (hpath : IsRelative path.toList) : Settled set (joinPath base path).toList := by
  have hslash : '/' ∉ pathSet ++ specialQuerySet := by decide
  intro c hc
  rw [joinPath, String.toList_ofList, List.mem_append, List.mem_cons] at hc
  rcases hc with hc | rfl | hc
  · exact h c (mem_withoutSlashes hc)
  · exact ⟨by decide, by decide, fun hmem => hslash (hset hmem)⟩
  · rcases hpath.1 c ((List.dropWhile_sublist _).mem hc) with rfl | hfree
    · exact ⟨by decide, by decide, fun hmem => hslash (hset hmem)⟩
    · obtain ⟨⟨hfrom, hto⟩, hnone, -, -⟩ := hfree.isClear
      exact ⟨Nat.le_of_lt hfrom, hto, fun hmem => hnone (List.mem_append_left _ (hset hmem))⟩

theorem joinPath_settledPath {base path : String} (h : SettledPath base.toList) (hpath : IsRelative path.toList) :
    SettledPath (joinPath base path).toList := by
  have htext : (joinPath base path).toList = withoutSlashes base.toList ++ '/' :: Client.relativePart path :=
    String.toList_ofList
  rw [htext]
  refine ⟨?_, fun s hs => ?_⟩
  · obtain ⟨n, hn⟩ := withoutSlashes_prefix base.toList
    have hfirst := h.1
    cases hfront : withoutSlashes base.toList with
    | nil => rfl
    | cons c front =>
      rw [hn, hfront] at hfirst
      exact hfirst
  · rw [List.splitOn_append_cons_self, List.mem_append] at hs
    rcases hs with hs | hs
    · exact h.2 s (splitOn_withoutSlashes hs)
    · have hmem := splitOn_relativePart hs
      refine settledSegment_unreserved (fun c hc => ?_) (hpath.2 s hmem)
      obtain ⟨hin, hout⟩ := mem_of_splitOn hmem c hc
      exact (hpath.1 c hin).resolve_left hout

variable {u : Url} {a : Authority}

/-- What stands behind the authority of a URL that was read is its path, query and fragment. -/
theorem IsKept.ofServer_tail (h : u.IsKept a) : ofServer u.scheme a u.tail = u := by
  have hquestion : '?' ∉ u.path.toList := h.path.not_mem (by decide) (by decide)
  have hhash : '#' ∉ u.path.toList ++ (behind "?" u.query).toList := fun hc => by
    rcases List.mem_append.mp hc with hc | hc
    · exact h.path.not_mem (by decide) (by decide) hc
    · cases hquery : u.query with
      | none => simp [hquery, behind] at hc
      | some q =>
        have hset : '#' ∈ specialQuerySet := by decide
        have hmem : '#' ∈ q.toList := by simpa [hquery, behind] using hc
        exact (h.query q hquery '#' hmem).2.2 hset
  have hfragmentCut : cutBefore '#' (u.path.toList ++ (behind "?" u.query).toList ++ (behind "#" u.fragment).toList) = _ :=
    cutBefore_behind rfl hhash u.fragment
  have hqueryCut : cutBefore '?' (u.path.toList ++ (behind "?" u.query).toList) = _ := cutBefore_behind rfl hquestion u.query
  simp only [ofServer, tail, hfragmentCut, hqueryCut]
  rw [h.path.read, encode_part h.query, encode_part h.fragment, String.ofList_toList, ← h.authority, ← h.shielded]

/-- The path comes at the end of all that stands behind the authority. -/
theorem tail_appended (u : Url) (path : String) :
    (u.appended path).tail = withoutSlashes u.tail ++ '/' :: Client.relativePart path := by
  obtain ⟨scheme, authority, isShielded, target, query, fragment⟩ := u
  cases fragment with
  | some f =>
    have hsplit : (⟨scheme, authority, isShielded, target, query, some f⟩ : Url).tail =
        (target.toList ++ (behind "?" query).toList ++ ['#']) ++ f.toList := by simp [tail, behind]
    rw [hsplit, withoutSlashes_append (by simp)]
    simp [appended, joinPath, tail, behind]
  | none => cases query with
    | some q =>
      have hsplit : (⟨scheme, authority, isShielded, target, some q, none⟩ : Url).tail =
          (target.toList ++ ['?']) ++ q.toList := by simp [tail, behind]
      rw [hsplit, withoutSlashes_append (by simp)]
      simp [appended, joinPath, tail, behind]
    | none => simp [appended, joinPath, tail, behind]

/-- A target with a path at its end is such a URL again. -/
theorem IsKept.appended (h : u.IsKept a) {path : String} (hpath : IsRelative path.toList) : (u.appended path).IsKept a := by
  have hquery : specialQuerySet ⊆ pathSet ++ specialQuerySet := List.subset_append_right _ _
  have hfragment : fragmentSet ⊆ pathSet ++ specialQuerySet := by decide
  obtain ⟨scheme, authority, isShielded, target, query, fragment⟩ := u
  cases fragment with
  | some f =>
    refine ⟨h.authority, h.kept, h.shielded, h.path, h.query, fun f' hf' => ?_⟩
    rw [← Option.some.inj hf']
    exact joinPath_settled hfragment (h.fragment f rfl) hpath
  | none => cases query with
    | some q =>
      refine ⟨h.authority, h.kept, h.shielded, h.path, fun q' hq' => ?_, nofun⟩
      rw [← Option.some.inj hq']
      exact joinPath_settled hquery (h.query q rfl) hpath
    | none => exact ⟨h.authority, h.kept, h.shielded, joinPath_settledPath h.path hpath, nofun, nofun⟩

theorem appended_scheme (u : Url) (path : String) : (u.appended path).scheme = u.scheme := by
  rw [Url.appended]
  split <;> rfl

end Url

namespace Client

variable {W : Type} {target : Url}

/-- A path stands behind the target as a whole: at the end of its fragment, of its query if it has no
    fragment, and of its path only if it has neither. -/
theorem request_appended {b b' : Blueprint W} {text : String} (haccepted : b.withTarget text = .ok b') (c : Client W)
    (hc : c.target = b'.target) (htarget : b'.target = some target) (hscheme : IsWebScheme target.scheme)
    (method : Http.Method) {path : String} (hpath : IsRelative path.toList) :
    c.request method path = if target.hasReadableHost then .ok (Request.make method (target.appended path))
      else .error (Request.invalidUri (behindTarget target path) .invalidDomain) := by
  obtain ⟨a, hkept⟩ := Url.ofText_kept (ofText_target haccepted htarget) hscheme
  have hsign : ¬ authoritySign <:+: path.toList := fun hinside => by
    rcases hpath.1 ':' (hinside.subset (.head _)) with hslash | hfree
    · exact absurd hslash (by decide)
    · exact absurd hfree (by decide)
  have hend : Url.trimmedEnd (withoutSlashes target.tail ++ '/' :: relativePart path) = (target.appended path).tail := by
    rw [Url.trimmedEnd_append _ (by decide), Url.trimmedEnd_eq, Url.tail_appended]
    intro d hd
    rcases hpath.1 d ((List.dropWhile_sublist _).mem hd) with rfl | hfree
    · decide
    · exact hfree.isClear.printable.1
  rw [request_behind hkept hscheme c (hc.trans htarget) method hsign, hend, ← Url.appended_scheme target path,
    (hkept.appended hpath).ofServer_tail]

/-- A target with a query, as it is written. -/
def queryText : String := "http://user@h/a?x=1"

/-- That target. -/
def queryTarget : Url := Url.ofServer "http" userAtHost "/a?x=1".toList

theorem queryText_accepted : Url.ofText queryText = .ok queryTarget := by
  have htext : queryText.toList = "http".toList ++ ':' :: '/' :: '/' :: (userAtHost.text.toList ++ "/a?x=1".toList) := by
    decide +kernel
  have hreadable : userAtHost.host.isReadable = true := by decide +kernel
  have hend : Url.trimmedEnd "/a?x=1".toList = "/a?x=1".toList := Url.trimmedEnd_eq (List.all_iff_forall_prop.mp (by decide))
  rw [Url.ofText_authority (.inl rfl) userAtHost_kept htext, hreadable, if_pos rfl, queryTarget]
  exact congrArg (fun cs => Except.ok (Url.ofServer "http" userAtHost cs)) hend

/-- The path comes behind the query, and what is requested is the path of the target. -/
theorem appended_to_query : ∃ b : Blueprint Unit, (Blueprint.ofEndpoint ⟨"m", .mono⟩).withTarget queryText = .ok b ∧
    (clientOf queryTarget).target = b.target ∧ b.target = some queryTarget ∧ IsWebScheme queryTarget.scheme ∧
      IsRelative "p".toList ∧ ∃ r, (clientOf queryTarget).request .get "p" = .ok r ∧ r.uri.path = "/a" ∧
        r.uri.query = some "x=1/p" := by
  have haccepted : (Blueprint.ofEndpoint ⟨"m", .mono⟩ : Blueprint Unit).withTarget queryText =
      .ok { Blueprint.ofEndpoint ⟨"m", .mono⟩ with target := some queryTarget } := by
    rw [Blueprint.withTarget, queryText_accepted]
  have hreadable : queryTarget.hasReadableHost = true := by decide +kernel
  have hrelative : IsRelative "p".toList := by decide +kernel
  refine ⟨_, haccepted, rfl, rfl, .inl rfl, hrelative, Request.make .get (queryTarget.appended "p"), ?_,
    by decide +kernel, by decide +kernel⟩
  have hrequest := request_appended haccepted (clientOf queryTarget) rfl rfl (.inl rfl) .get hrelative
  rwa [hreadable, if_pos rfl] at hrequest

end Client
end Courier
