import Courier.Interceptor.BasicAuth
import Courier.Proofs.Base64
import Courier.Proofs.Cut
import Courier.Proofs.Interceptor.Edits
import Courier.Proofs.Text.Utf8
import Mathlib.Data.List.Basic
import Mathlib.Data.List.TakeWhile

/-! Credentials that are sent.

    A request with credentials has one value for them. Behind its scheme the value carries user and
    password with a colon between them. Whoever cuts that text at its first colon gets user and password
    back unless the user has a colon (`basicAuth_carries`): the text `a:b:c` is sent for the user `a:b` with
    the password `c`, and for the user `a` with the password `b:c`. -/

namespace Courier

/-! ### One name of many -/

/-- A name that gets a value stays where it is among the others. -/
theorem Http.Headers.remove_insert (name : HeaderName) (value : HeaderValue) : ∀ hs : Headers,
    remove name (insert name value hs) = remove name hs
  | [] => by rw [insert, remove, List.filter_cons, if_neg (by simp)]; rfl
  | (n, vs) :: hs => by
    have ih := remove_insert name value hs
    rw [remove, remove] at ih
    rw [insert]
    split
    · next h =>
      rw [remove, remove, List.filter_cons, List.filter_cons, if_neg (by simpa using h),
        if_neg (by simpa using h)]
    · rw [remove, remove, List.filter_cons, List.filter_cons, ih]

namespace Interceptor

open Http Http.Headers

namespace Credentials

/-! ### What a server reads -/

/-- What stands before the letters. -/
def scheme : Bytes := Text.ascii "Basic "

/-- User and password with a colon between them. -/
def joined (c : Credentials) : String := c.user ++ ":" ++ c.password

/-- The text that a value carries behind the scheme. -/
def carried? (value : Bytes) : Option String := do
  let code ← scheme.isPrefixOf? value
  let letters ← Text.decode? code
  let bytes ← Base64.decode? letters.toList
  Text.decode? bytes

/-- What stands before the first colon of a text, and what stands behind it. -/
def split? (text : String) : Option Credentials :=
  match text.toList.span (· != ':') with
  | (user, _ :: password) => some ⟨String.ofList user, String.ofList password⟩
  | (_, []) => none

/-- The credentials that a value carries. -/
def ofValue? (value : Bytes) : Option Credentials := (carried? value).bind split?

/-! ### The text that is carried -/

theorem decode?_charsBytes (cs : List Char) : Text.decode? (Text.charsBytes cs) = some (String.ofList cs) := by
  rw [Text.decode?, Text.decodeChars_charsBytes]

theorem carried?_headerValue (c : Credentials) : carried? c.headerValue.bytes = some c.joined := by
  have hcode : scheme.isPrefixOf? c.headerValue.bytes
      = some (Text.charsBytes (Base64.encode (Text.bytes c.joined))) :=
    List.isPrefixOf?_eq_some_iff_append_eq.mpr rfl
  have hletters := decode?_charsBytes (Base64.encode (Text.bytes c.joined))
  have hbytes := Base64.decode?_encode (Text.bytes c.joined)
  have htext := decode?_charsBytes c.joined.toList
  rw [String.ofList_toList] at htext
  simp only [carried?, Option.bind_eq_bind, hcode, Option.bind_some, hletters, String.toList_ofList, hbytes]
  exact htext

/-- Every value is one that a header field may have. -/
theorem ofBytes?_headerValue (c : Credentials) :
    HeaderValue.ofBytes? c.headerValue.bytes = some ⟨c.headerValue.bytes, false⟩ := by
  have hscheme : scheme.all isValueByte = true := by decide
  have hcode : (Text.charsBytes (Base64.encode (Text.bytes c.joined))).all isValueByte = true := by
    have hshows := Base64.encode_shows (Text.bytes c.joined)
    rw [Text.charsBytes_ascii fun x hx => Nat.lt_trans (hshows x hx).2 (by decide), List.all_map,
      List.all_eq_true]
    intro x hx
    obtain ⟨hlow, hhigh⟩ := hshows x hx
    have hx' : x.toNat.toUInt8.toNat = x.toNat := Text.toNat_toUInt8 (by omega)
    simp only [Function.comp_apply, isValueByte, Bool.or_eq_true, Bool.and_eq_true, decide_eq_true_eq,
      UInt8.le_iff_toNat_le, bne_iff_ne, ne_eq, ← UInt8.toNat_inj, hx']
    exact .inl ⟨hlow.le, fun he => absurd (he ▸ hhigh) (by decide)⟩
  have hall : c.headerValue.bytes.all isValueByte = true := by
    rw [headerValue, List.all_append, Bool.and_eq_true]
    exact ⟨hscheme, hcode⟩
  rw [HeaderValue.ofBytes?, if_pos hall]

/-! ### The first colon -/

theorem toList_joined (c : Credentials) : c.joined.toList = c.user.toList ++ ':' :: c.password.toList := by
  simp [joined]

/-- A text is cut into the one pair that makes it without a colon in its user. -/
theorem split?_eq_some_iff {text : String} {c : Credentials} :
    split? text = some c ↔ text = c.joined ∧ ':' ∉ c.user.toList := by
  constructor
  · intro h
    rw [split?, List.span_eq_takeWhile_dropWhile] at h
    have hwhole := List.takeWhile_append_dropWhile (p := (· != ':')) (l := text.toList)
    have hhead := List.head?_dropWhile_not (· != ':') text.toList
    cases hback : text.toList.dropWhile (· != ':') with
    | nil => rw [hback] at h; cases h
    | cons x password =>
      rw [hback] at h hwhole hhead
      obtain rfl : x = ':' := by simpa using hhead
      obtain rfl := Option.some.inj h
      refine ⟨String.toList_injective ?_, fun hmem => ?_⟩
      · rw [toList_joined, String.toList_ofList, String.toList_ofList, hwhole]
      · rw [String.toList_ofList] at hmem
        exact absurd (List.mem_takeWhile_imp hmem) (by decide)
  · rintro ⟨rfl, hfree⟩
    have hspan : c.joined.toList.span (· != ':') = (c.user.toList, ':' :: c.password.toList) := by
      rw [toList_joined]
      refine span_append (fun x hx => ?_) (fun x hx => ?_)
      · exact bne_iff_ne.mpr fun he => hfree (he ▸ hx)
      · rw [List.head?_cons, Option.some.injEq] at hx
        rw [← hx, bne_self_eq_false]
    rw [split?, hspan]
    simp only [String.ofList_toList]

/-- Values tell apart what their texts tell apart. -/
theorem headerValue_eq_iff (c c' : Credentials) : c'.headerValue = c.headerValue ↔ c'.joined = c.joined := by
  constructor
  · intro h
    have hread := carried?_headerValue c'
    rw [h, carried?_headerValue] at hread
    exact (Option.some.inj hread).symm
  · intro h
    rw [joined, joined] at h
    rw [headerValue, headerValue, h]

end Credentials

/-! ### The request -/

variable {W : Type}

/-- A request with credentials has one value for them, a sensitive one, and is as it was in everything else.
    The value carries user and password joined by a colon. The first colon of that text gives them back if
    and only if the user has none, so two pairs without a colon in the user are never sent as one value. -/
theorem basicAuth_carries (c c' : Credentials) (r : Request W) (w : W) :
    (∃ r', (basicAuth c).apply r w = (w, r') ∧
      values authorizationName r'.headers = [c.headerValue] ∧ c.headerValue.sensitive = true ∧
      HeaderValue.ofBytes? c.headerValue.bytes = some ⟨c.headerValue.bytes, false⟩ ∧
      (∀ n, n ≠ authorizationName → values n r'.headers = values n r.headers) ∧
      remove authorizationName r'.headers = remove authorizationName r.headers ∧
      r'.method = r.method ∧ r'.uri = r.uri ∧ r'.body = r.body) ∧
    Credentials.carried? c.headerValue.bytes = some (c.user ++ ":" ++ c.password) ∧
    (Credentials.ofValue? c.headerValue.bytes = some c ↔ ':' ∉ c.user.toList) ∧
    (c'.headerValue = c.headerValue ↔ c'.user ++ ":" ++ c'.password = c.user ++ ":" ++ c.password) ∧
    (':' ∉ c.user.toList → ':' ∉ c'.user.toList → (c'.headerValue = c.headerValue ↔ c' = c)) := by
  have hread : Credentials.ofValue? c.headerValue.bytes = Credentials.split? c.joined := by
    rw [Credentials.ofValue?, Credentials.carried?_headerValue, Option.bind_some]
  refine ⟨⟨_, rfl, ?_, rfl, c.ofBytes?_headerValue, fun n hn => ?_, remove_insert .., rfl, rfl, rfl⟩,
    c.carried?_headerValue, ?_, c.headerValue_eq_iff c', fun hfree hfree' => ⟨fun h => ?_, congrArg _⟩⟩
  · rw [values_insert, if_pos rfl]
  · rw [values_insert, if_neg hn.symm]
  · rw [hread, Credentials.split?_eq_some_iff]
    exact and_iff_right rfl
  · have hsame := (c.headerValue_eq_iff c').mp h
    have hc := Credentials.split?_eq_some_iff.mpr ⟨rfl, hfree⟩
    have hc' := Credentials.split?_eq_some_iff.mpr ⟨hsame.symm, hfree'⟩
    exact Option.some.inj (hc'.symm.trans hc)

/-- The credentials of the standard's example, and a password with a colon. -/
theorem basicAuth_carries_aladdin :
    let aladdin : Credentials := ⟨"Aladdin", "open sesame"⟩
    let other : Credentials := ⟨"Aladdin", ":open"⟩
    aladdin.headerValue.bytes = Text.ascii "Basic QWxhZGRpbjpvcGVuIHNlc2FtZQ==" ∧
      Credentials.ofValue? aladdin.headerValue.bytes = some aladdin ∧
      Credentials.ofValue? other.headerValue.bytes = some other ∧
      other.headerValue ≠ aladdin.headerValue := by
  intro aladdin other
  let request : Request Unit := Request.make .get ⟨"http", none, false, "/", none, none⟩
  obtain ⟨-, -, hread, -, hsame⟩ := basicAuth_carries aladdin other request ()
  obtain ⟨-, -, hother, -, -⟩ := basicAuth_carries other aladdin request ()
  refine ⟨by decide, hread.mpr (by decide), hother.mpr (by decide), fun h => ?_⟩
  exact absurd ((hsame (by decide) (by decide)).mp h) (by decide)

/-- A colon in the user: the pair is sent as another one is, and read as that one. -/
theorem headerValue_of_colon :
    (⟨"a:b", "c"⟩ : Credentials) ≠ ⟨"a", "b:c"⟩ ∧
      Credentials.headerValue ⟨"a:b", "c"⟩ = Credentials.headerValue ⟨"a", "b:c"⟩ ∧
      Credentials.ofValue? (Credentials.headerValue ⟨"a:b", "c"⟩).bytes = some ⟨"a", "b:c"⟩ := by
  decide

end Interceptor
end Courier
