import Mathlib.Data.List.Infix
import Courier.Client

/-! Paths and absolute URLs.

    A path is to be read behind the target of a client, an absolute URL for itself. A client takes a text
    for an absolute URL if the sign of an authority stands anywhere in it; that is the rule just where no
    path holds the sign, and elsewhere the path is read for itself and mostly refused (`request_read`). -/

namespace Courier.Client

variable {W : Type}

/-- What stands between the scheme of an absolute URL and its authority. -/
def authoritySign : List Char := [':', '/', '/']

/-- A letter, then letters, digits and the signs of schemes. -/
def IsScheme : List Char → Prop
  | [] => False
  | c :: cs => c.isAlpha = true ∧ ∀ d ∈ cs, Url.isSchemeChar d = true

/-- An absolute URL begins with a scheme and the sign of an authority behind it. -/
def IsAbsolute (cs : List Char) : Prop := ∃ scheme rest, cs = scheme ++ authoritySign ++ rest ∧ IsScheme scheme

/-- The text is the target without its closing slashes, a slash, and the path without its opening
    slashes. -/
def Joins (target : Url) (path text : String) : Prop := ∃ base m n rest,
  target.text.toList = base ++ List.replicate m '/' ∧ base.getLast? ≠ some '/' ∧
  path.toList = List.replicate n '/' ++ rest ∧ rest.head? ≠ some '/' ∧ text.toList = base ++ '/' :: rest

/-- The text that a path stands for: itself if it is an absolute URL, else the path behind the target. -/
def StandsFor (target : Url) (path text : String) : Prop :=
  (IsAbsolute path.toList → text = path) ∧ (¬ IsAbsolute path.toList → Joins target path text)

/-- The path behind the target. -/
def behindTarget (target : Url) (path : String) : String :=
  baseText target ++ "/" ++ String.ofList (path.toList.dropWhile (· == '/'))

/-! ### Which text is read -/

theorem hasAuthority_iff (cs : List Char) : hasAuthority cs = true ↔ authoritySign <:+: cs := by
  induction cs with
  | nil => simp [hasAuthority, authoritySign]
  | cons c cs ih =>
    rw [List.infix_cons_iff, ← ih]
    constructor
    · intro h
      rw [hasAuthority.eq_def] at h
      split at h
      · next rest heq =>
        refine .inl ⟨rest, ?_⟩
        rw [heq]
        rfl
      · next heq =>
        cases heq
        exact .inr h
      · cases h
    · rintro (⟨rest, hrest⟩ | h)
      · obtain ⟨rfl, rfl⟩ := List.cons.inj hrest
        rfl
      · rw [hasAuthority.eq_def]
        split
        · rfl
        · next heq =>
          cases heq
          exact h
        · next heq => cases heq

theorem IsAbsolute.authority {cs : List Char} : IsAbsolute cs → authoritySign <:+: cs := by
  rintro ⟨scheme, rest, rfl, -⟩
  exact ⟨scheme, rest, rfl⟩

theorem request_eq (c : Client W) {target : Url} (h : c.target = some target) (method : Http.Method)
    (path : String) : c.request method path = Request.parse method
      (if authoritySign <:+: path.toList then path else behindTarget target path) := by
  rw [request, h, apply_ite (Request.parse method)]
  simp only [hasAuthority_iff]
  rfl

/-! ### The path behind the target -/

/-- Slashes in front of a text, and the text without them. -/
theorem dropWhile_slashes (cs : List Char) :
    ∃ n, cs = List.replicate n '/' ++ cs.dropWhile (· == '/') ∧ (cs.dropWhile (· == '/')).head? ≠ some '/' := by
  induction cs with
  | nil => exact ⟨0, rfl, by simp⟩
  | cons c cs ih =>
    by_cases hc : c = '/'
    · subst hc
      obtain ⟨n, hn, hhead⟩ := ih
      refine ⟨n + 1, ?_, by simpa using hhead⟩
      simpa [List.replicate_succ] using hn
    · refine ⟨0, ?_, ?_⟩ <;> simp [hc]

theorem behindTarget_joins (target : Url) (path : String) : Joins target path (behindTarget target path) := by
  obtain ⟨m, htarget, hlast⟩ := dropWhile_slashes target.text.toList.reverse
  obtain ⟨n, hpath, hhead⟩ := dropWhile_slashes path.toList
  refine ⟨(target.text.toList.reverse.dropWhile (· == '/')).reverse, m, n, _, ?_, ?_, hpath, hhead, ?_⟩
  · have hreverse := congrArg List.reverse htarget
    rwa [List.reverse_reverse, List.reverse_append, List.reverse_replicate] at hreverse
  · rwa [List.getLast?_reverse]
  · simp [behindTarget, baseText]

/-- What stands behind the target is not the path itself: the target has a colon behind its scheme. -/
theorem not_joins_self (target : Url) (path : String) : ¬ Joins target path path := by
  rintro ⟨base, m, n, rest, htarget, -, hpath, -, htext⟩
  have hslashes : base ++ ['/'] = List.replicate n '/' := by
    have hsame : base ++ ['/'] ++ rest = List.replicate n '/' ++ rest := by
      rw [← hpath, htext, List.append_assoc]
      rfl
    exact List.append_cancel_right hsame
  have hcolon : ':' ∈ base ++ List.replicate m '/' := by
    rw [← htarget, Url.text]
    simp
  have hbase : ':' ∈ base ++ ['/'] := by
    rcases List.mem_append.mp hcolon with hmem | hmem
    · exact List.mem_append_left _ hmem
    · exact absurd (List.eq_of_mem_replicate hmem) (by decide)
  rw [hslashes] at hbase
  exact absurd (List.eq_of_mem_replicate hbase) (by decide)

/-! ### Paths that are no URL -/

/-- What is not dropped stands where it stood. -/
theorem dropWhile_upTo {p : Char → Bool} {d : Char} (hd : p d = false) (xs ys : List Char) :
    ∃ kept, (xs ++ d :: ys).dropWhile p = kept ++ d :: ys ∧ ∀ x ∈ kept, x ∈ xs := by
  induction xs with
  | nil => exact ⟨[], by simp [hd], by simp⟩
  | cons x xs ih =>
    cases hx : p x with
    | true =>
      obtain ⟨kept, hkept, hmem⟩ := ih
      exact ⟨kept, by simpa [List.dropWhile_cons, hx] using hkept, fun y hy => .tail _ (hmem y hy)⟩
    | false => exact ⟨x :: xs, by simp [hx], fun y hy => hy⟩

theorem trimmedText_upTo {s : String} {d : Char} (hd : 32 < d.toNat) {xs ys : List Char}
    (hs : s.toList = xs ++ d :: ys) : ∃ kept rest, Url.trimmedText s = kept ++ d :: rest ∧ ∀ x ∈ kept, x ∈ xs := by
  have hinner : decide (d.toNat ≤ 32) = false := by simpa using hd
  obtain ⟨kept, hkept, hmem⟩ := dropWhile_upTo (p := fun c => decide (c.toNat ≤ 32)) hinner xs ys
  obtain ⟨rest, hrest, -⟩ := dropWhile_upTo (p := fun c => decide (c.toNat ≤ 32)) hinner ys.reverse kept.reverse
  refine ⟨kept, rest.reverse, ?_, hmem⟩
  have hback : (kept ++ d :: ys).reverse = ys.reverse ++ d :: kept.reverse := by simp
  simp only [Url.trimmedText]
  rw [hs, hkept, hback, hrest]
  simp

/-- There is no scheme if a character in front of the colon cannot stand in one. -/
theorem cutScheme_none {d : Char} (hignored : Url.isIgnored d = false) (hcolon : d ≠ ':')
    (hscheme : Url.isSchemeChar d = false) (rest : List Char) : ∀ (cs : List Char), ':' ∉ cs → ∀ name,
      Url.cutScheme name (cs ++ d :: rest) = none := by
  intro cs
  induction cs with
  | nil =>
    intro _ name
    simp [Url.cutScheme, hignored, hcolon, hscheme]
  | cons c cs ih =>
    intro hmem name
    obtain ⟨hc, hcs⟩ := not_or.mp (mt List.mem_cons.mpr hmem)
    have hne : c ≠ ':' := Ne.symm hc
    rw [List.cons_append, Url.cutScheme]
    split
    · exact ih hcs name
    · simp only [hne, beq_iff_eq, if_false]
      split
      · exact ih hcs _
      · rfl

/-- A text is refused if a character in front of its first colon cannot stand in a scheme. -/
theorem parse_refused (method : Http.Method) {path : String} {before rest : List Char} {d : Char}
    (hpath : path.toList = before ++ ':' :: rest) (hfirst : ':' ∉ before) (hmem : d ∈ before)
    (hvisible : 32 < d.toNat) (hscheme : Url.isSchemeChar d = false) :
    (Request.parse method path : Except Failure (Request W)) = .error (Request.invalidUri path .noBase) := by
  obtain ⟨xs, ys, rfl⟩ := List.append_of_mem hmem
  have hcolon : d ≠ ':' := by
    rintro rfl
    exact hfirst hmem
  have hignored : Url.isIgnored d = false := by
    rw [Bool.eq_false_iff]
    intro h
    simp only [Url.isIgnored, Bool.or_eq_true, beq_iff_eq] at h
    rcases h with (rfl | rfl) | rfl <;> exact absurd hvisible (by decide)
  have htext : path.toList = xs ++ d :: (ys ++ ':' :: rest) := by simp [hpath]
  obtain ⟨kept, later, htrimmed, hkept⟩ := trimmedText_upTo hvisible htext
  have hclear : ':' ∉ kept := fun h => hfirst (List.mem_append_left _ (hkept _ h))
  have hnone : Url.ofText path = .error .noBase := by
    rw [Url.ofText, htrimmed, cutScheme_none hignored hcolon hscheme later kept hclear]
    rfl
  rw [Request.parse, hnone]

/-! ### Requests -/

/-- The text that a client reads is the one that the path stands for, unless the sign of an authority
    stands in a path that is no absolute URL. Then the path is read for itself; if something in front of
    its first colon cannot stand in a scheme, it is refused. -/
theorem request_read (c : Client W) {target : Url} (h : c.target = some target) (method : Http.Method)
    (path : String) : ∃ text, c.request method path = Request.parse method text ∧
      (StandsFor target path text ↔ (authoritySign <:+: path.toList → IsAbsolute path.toList)) ∧
      (authoritySign <:+: path.toList → text = path ∧ ∀ before rest d, path.toList = before ++ ':' :: rest →
        ':' ∉ before → d ∈ before → 32 < d.toNat → Url.isSchemeChar d = false →
        c.request method path = .error (Request.invalidUri path .noBase)) := by
  refine ⟨_, c.request_eq h method path, ?_, ?_⟩
  · by_cases hsign : authoritySign <:+: path.toList
    · rw [if_pos hsign]
      constructor
      · intro hstands _
        exact Classical.byContradiction fun hrelative => not_joins_self target path (hstands.2 hrelative)
      · intro habsolute
        exact ⟨fun _ => rfl, fun hrelative => absurd (habsolute hsign) hrelative⟩
    · rw [if_neg hsign]
      constructor
      · intro _ hsign'
        exact absurd hsign' hsign
      · intro _
        exact ⟨fun habsolute => absurd habsolute.authority hsign, fun _ => behindTarget_joins target path⟩
  · intro hsign
    refine ⟨if_pos hsign, fun before rest d hpath hfirst hmem hvisible hscheme => ?_⟩
    rw [c.request_eq h, if_pos hsign]
    exact parse_refused method hpath hfirst hmem hvisible hscheme

/-- A server with a path of its own. -/
def shopTarget : Url := ⟨"http", some ⟨"", none, .name "h", none⟩, false, "/shop/", none, none⟩

/-- A client of that server. -/
def shop : Client Unit := ⟨⟨"", fun _ w => (w, .error (.other ""))⟩, some shopTarget, ⟨"login", .mono⟩⟩

/-- The path of a page that is told where to go after the login. -/
def loginPath : String := "/login?next=https://x/"

/-- The path of the login page is refused, though it would be a good path behind the target. -/
theorem read_of_loginPath : (∃ text, shop.request .get loginPath = Request.parse .get text ∧
      (StandsFor shopTarget loginPath text ↔ (authoritySign <:+: loginPath.toList → IsAbsolute loginPath.toList)) ∧
      (authoritySign <:+: loginPath.toList → text = loginPath ∧ ∀ before rest d,
        loginPath.toList = before ++ ':' :: rest → ':' ∉ before → d ∈ before → 32 < d.toNat →
        Url.isSchemeChar d = false →
        shop.request .get loginPath = .error (Request.invalidUri loginPath .noBase))) ∧
    shop.request .get loginPath = .error (Request.invalidUri loginPath .noBase) ∧
    behindTarget shopTarget loginPath = "http://h/shop/login?next=https://x/" := by
  obtain ⟨text, -, -, hpath⟩ := shop.request_read rfl .get loginPath
  have hsign : authoritySign <:+: loginPath.toList := by decide +kernel
  have hrefused := (hpath hsign).2 "/login?next=https".toList "//x/".toList '/'
  refine ⟨shop.request_read rfl .get loginPath, hrefused ?_ ?_ ?_ ?_ ?_, ?_⟩ <;> decide +kernel

end Courier.Client
