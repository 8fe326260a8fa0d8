import Courier.Client
import Courier.Rehearsal.Stage

/-! Settings that no client can be built from.

    The parts of the settings are tried in their order, and the first one that is wrong says how building
    fails (`refused_by_part`). A target, a wire, a section, a kind of interceptor or the shape of its
    configuration is refused as a configuration. A text that is to be the name or the value of a header
    field, and is none, is refused as a request would be that had it. -/

namespace Courier

/-! ### One part after the other -/

/-- How the text of a header field is refused. -/
def Failure.Naming (e : Failure) : Prop := e = Request.invalidName ∨ e = Request.invalidValue

/-- What comes of a part: it is made, or it holds the text of no header field, or it is wrong otherwise. -/
inductive Verdict {α : Type} (made misnamed : Prop) : Except Failure α → Prop
  | made (a : α) (h : made) (hnot : ¬ misnamed) : Verdict made misnamed (.ok a)
  | misnamed (e : Failure) (he : e.Naming) (hnot : ¬ made) (h : misnamed) : Verdict made misnamed (.error e)
  | refused (m : String) (hnot : ¬ made) (hnot' : ¬ misnamed) : Verdict made misnamed (.error (.configuration m))

namespace Verdict

variable {α β : Type} {made misnamed made' misnamed' : Prop} {x : Except Failure α}

theorem of_iff (h : Verdict made misnamed x) (hmade : made ↔ made') (hmisnamed : misnamed ↔ misnamed') :
    Verdict made' misnamed' x := propext hmade ▸ propext hmisnamed ▸ h

theorem ok_of_made (h : Verdict made misnamed x) (hmade : made) : ∃ a, x = .ok a := by
  cases h with
  | made a _ _ => exact ⟨a, rfl⟩
  | misnamed _ _ hnot _ => exact absurd hmade hnot
  | refused _ hnot _ => exact absurd hmade hnot

theorem error_of_misnamed (h : Verdict made misnamed x) (hmisnamed : misnamed) : ∃ e, x = .error e ∧ e.Naming := by
  cases h with
  | made _ _ hnot => exact absurd hmisnamed hnot
  | misnamed e he _ _ => exact ⟨e, rfl, he⟩
  | refused _ _ hnot => exact absurd hmisnamed hnot

/-- A part behind another one counts if that one is made. -/
theorem bind {f : α → Except Failure β} (h : Verdict made misnamed x)
    (hf : ∀ a, x = .ok a → Verdict made' misnamed' (f a)) :
    Verdict (made ∧ made') (misnamed ∨ made ∧ misnamed') (x >>= f) := by
  cases h with
  | made a h hnot =>
    refine (hf a rfl).of_iff (iff_and_self.mpr fun _ => h) ?_
    simp only [hnot, h, true_and, false_or]
  | misnamed e he hnot h => exact .misnamed e he (fun h' => hnot h'.1) (.inl h)
  | refused m hnot hnot' => exact .refused m (fun h' => hnot h'.1) (fun h' => h'.elim hnot' fun h'' => hnot h''.1)

theorem map (f : α → β) (h : Verdict made misnamed x) : Verdict made misnamed (x.map f) := by
  cases h with
  | made a h hnot => exact .made _ h hnot
  | misnamed e he hnot h => exact .misnamed e he hnot h
  | refused m hnot hnot' => exact .refused m hnot hnot'

/-- Two parts that hold nothing but texts of header fields. -/
theorem bind_texts {f : α → Except Failure β} (h : Verdict made (¬ made) x)
    (hf : ∀ a, x = .ok a → Verdict made' (¬ made') (f a)) :
    Verdict (made ∧ made') (¬ (made ∧ made')) (x >>= f) := by
  refine (h.bind hf).of_iff Iff.rfl ?_
  by_cases hmade : made
  · simp only [hmade, not_true, false_or, true_and]
  · simp only [hmade, not_false_iff, true_or, false_and]

theorem mapM_texts {f : α → Except Failure β} {fits : α → Prop} (hf : ∀ a, Verdict (fits a) (¬ fits a) (f a)) :
    ∀ as : List α, Verdict (∀ a ∈ as, fits a) (¬ ∀ a ∈ as, fits a) (as.mapM f)
  | [] => .made _ nofun (not_not_intro nofun)
  | a :: as => by
    rw [List.mapM_cons, List.forall_mem_cons]
    exact (hf a).bind_texts fun b _ => (mapM_texts hf as).map (List.cons b)

end Verdict

/-! ### Texts of header fields -/

namespace Interceptor

variable {W : Type}

/-- Two texts that a header field can have. -/
def Fits (f : String × String) : Prop :=
  (Http.HeaderName.ofText? f.1).isSome ∧ (Http.HeaderValue.ofText? f.2).isSome

/-- A configuration with texts that header fields can have. -/
structure HeaderConfig.Fit (c : HeaderConfig) : Prop where
  set : ∀ f ∈ c.set, Fits f
  defaults : ∀ f ∈ c.defaults, Fits f
  remove : ∀ n ∈ c.remove, (Http.HeaderName.ofText? n).isSome

theorem parseHeader_verdict (f : String × String) :
    Verdict (Fits f) (¬ Fits f) (Request.parseHeader f.1 f.2) := by
  rw [Request.parseHeader]
  cases hn : Http.HeaderName.ofText? f.1 with
  | none =>
    have hnot : ¬ Fits f := fun h => by simpa [hn] using h.1
    exact .misnamed _ (.inl rfl) hnot hnot
  | some n =>
    cases hv : Http.HeaderValue.ofText? f.2 with
    | none =>
      have hnot : ¬ Fits f := fun h => by simpa [hv] using h.2
      exact .misnamed _ (.inr rfl) hnot hnot
    | some v =>
      have h : Fits f := ⟨hn ▸ rfl, hv ▸ rfl⟩
      exact .made _ h (not_not_intro h)

theorem parseName_verdict (n : String) :
    Verdict (Http.HeaderName.ofText? n).isSome (¬ (Http.HeaderName.ofText? n).isSome) (HeaderEdits.parseName n) := by
  rw [HeaderEdits.parseName]
  cases Http.HeaderName.ofText? n with
  | none => exact .misnamed _ (.inl rfl) nofun nofun
  | some m => exact .made _ rfl (not_not_intro rfl)

theorem headers_verdict (c : HeaderConfig) : Verdict c.Fit (¬ c.Fit) (headers (W := W) c) := by
  have hfields (fs : List (String × String)) :
      Verdict (∀ f ∈ fs, Fits f) (¬ ∀ f ∈ fs, Fits f) (HeaderEdits.parseFields fs) :=
    Verdict.mapM_texts parseHeader_verdict fs
  have hparts := (hfields c.set).bind_texts fun set _ => (hfields c.defaults).bind_texts fun defaults _ =>
    (Verdict.mapM_texts parseName_verdict c.remove).map (HeaderEdits.mk set defaults)
  have hfit : ((∀ f ∈ c.set, Fits f) ∧ (∀ f ∈ c.defaults, Fits f) ∧
      ∀ n ∈ c.remove, (Http.HeaderName.ofText? n).isSome) ↔ c.Fit :=
    ⟨fun h => ⟨h.1, h.2.1, h.2.2⟩, fun h => ⟨h.set, h.defaults, h.remove⟩⟩
  exact (hparts.of_iff hfit (not_congr hfit)).map _

end Interceptor

/-! ### Entries of the settings -/

namespace Config

/-- An entry that an interceptor can be made of. -/
inductive InterceptorProperties.Made (p : InterceptorProperties) : Prop
  | header {c : Interceptor.HeaderConfig} (hkind : p.kind = "header")
      (hshape : Interceptor.HeaderConfig.decoder.ofJson p.config = .ok c) (h : c.Fit)
  | basicAuth {c : Interceptor.Credentials} (hkind : p.kind = "basic_auth")
      (hshape : Interceptor.Credentials.decoder.ofJson p.config = .ok c)

/-- An entry for header fields, of the right shape, with a text that no header field can have. -/
def InterceptorProperties.Misnamed (p : InterceptorProperties) : Prop :=
  p.kind = "header" ∧ ∃ c, Interceptor.HeaderConfig.decoder.ofJson p.config = .ok c ∧ ¬ c.Fit

/-- The first entry that no interceptor can be made of is misnamed. -/
def Stopped (ps : List InterceptorProperties) : Prop :=
  ∃ front p back, ps = front ++ p :: back ∧ (∀ q ∈ front, q.Made) ∧ p.Misnamed

theorem stopped_nil : ¬ Stopped [] := fun ⟨_, _, _, h, _⟩ => absurd h (by simp)

theorem stopped_cons {p : InterceptorProperties} {ps : List InterceptorProperties} :
    Stopped (p :: ps) ↔ p.Misnamed ∨ p.Made ∧ Stopped ps := by
  constructor
  · rintro ⟨front, q, back, hsplit, hfront, hq⟩
    cases front with
    | nil =>
      cases hsplit
      exact .inl hq
    | cons p' front =>
      cases hsplit
      exact .inr ⟨hfront p (.head _), front, q, back, rfl, fun q' hq' => hfront q' (.tail _ hq'), hq⟩
  · rintro (h | ⟨h, front, q, back, rfl, hfront, hq⟩)
    · exact ⟨[], p, ps, rfl, nofun, h⟩
    · exact ⟨p :: front, q, back, rfl, List.forall_mem_cons.mpr ⟨h, hfront⟩, hq⟩

end Config

/-! ### What stands in front of the entries -/

section

variable {W : Type}

namespace Blueprint

theorem target_verdict (endpoint : Endpoint) (target : Option String) :
    Verdict (∀ t, target = some t → ∃ u, Url.ofText t = .ok u) False
      (match target with
        | some t => (ofEndpoint (W := W) endpoint).withTarget t
        | none => .ok (ofEndpoint endpoint)) := by
  cases target with
  | none => exact .made _ nofun not_false
  | some t =>
    cases hurl : Url.ofText t with
    | error f =>
      simp only [withTarget, hurl]
      exact .refused _ (fun h => nomatch hurl.symm.trans (h t rfl).choose_spec) not_false
    | ok u =>
      simp only [withTarget, hurl]
      exact .made _ (fun _ ht => ⟨u, Option.some.inj ht ▸ hurl⟩) not_false

theorem prepare_verdict (wire : Wire W) (settings : WireSettings) : Verdict (wire.prepare settings = .ok ()) False
    ((wire.prepare settings).mapError fun message => .configuration ("failed to build http client: " ++ message)) := by
  cases wire.prepare settings with
  | error m => exact .refused _ nofun not_false
  | ok u => exact .made _ rfl not_false

theorem defaults_verdict (fs : List (String × String)) (b : Blueprint W) :
    Verdict (∀ f ∈ fs, Interceptor.Fits f) (¬ ∀ f ∈ fs, Interceptor.Fits f)
      (if fs.isEmpty then .ok b
        else Interceptor.headers { Interceptor.HeaderConfig.none with defaults := fs } >>= fun i =>
          .ok (b.withInterceptor i)) := by
  split
  · next hempty =>
    have hfits : ∀ f ∈ fs, Interceptor.Fits f := by
      rw [List.isEmpty_iff.mp hempty]
      exact nofun
    exact .made _ hfits (not_not_intro hfits)
  · have hfit : Interceptor.HeaderConfig.Fit { Interceptor.HeaderConfig.none with defaults := fs }
        ↔ ∀ f ∈ fs, Interceptor.Fits f := ⟨fun h => h.defaults, fun h => ⟨nofun, h, nofun⟩⟩
    exact ((Interceptor.headers_verdict _).of_iff hfit (not_congr hfit)).map b.withInterceptor

end Blueprint

namespace Config.Properties

variable (wire : Wire W) (p : Properties)

/-- What stands in front of the header fields is right: the target, if any, is a URL, and the wire can keep to
    its settings. -/
structure Starts : Prop where
  target : ∀ t, p.target = some t → ∃ u, Url.ofText t = .ok u
  wire : wire.prepare ⟨p.connectTimeout, p.followRedirects, p.readTimeout⟩ = .ok ()

/-- Everything is right. -/
structure Made : Prop where
  starts : p.Starts wire
  defaults : ∀ f ∈ p.defaultHeaders, Interceptor.Fits f
  interceptors : ∀ i ∈ p.interceptors, i.Made

/-- The first thing that is wrong is the name or the value of a header field. -/
structure Misnamed : Prop where
  starts : p.Starts wire
  named : (¬ ∀ f ∈ p.defaultHeaders, Interceptor.Fits f) ∨
    (∀ f ∈ p.defaultHeaders, Interceptor.Fits f) ∧ Stopped p.interceptors

theorem misnamed_iff : ((p.Starts wire ∧ ¬ ∀ f ∈ p.defaultHeaders, Interceptor.Fits f) ∨
    (p.Starts wire ∧ ∀ f ∈ p.defaultHeaders, Interceptor.Fits f) ∧ Stopped p.interceptors) ↔ p.Misnamed wire := by
  constructor
  · rintro (⟨hs, hn⟩ | ⟨⟨hs, hd⟩, hn⟩)
    · exact ⟨hs, .inl hn⟩
    · exact ⟨hs, .inr ⟨hd, hn⟩⟩
  · rintro ⟨hs, hn | ⟨hd, hn⟩⟩
    · exact .inl ⟨hs, hn⟩
    · exact .inr ⟨⟨hs, hd⟩, hn⟩

end Config.Properties

/-! ### From entries to all settings -/

variable [Ambient W] {registry : Interceptor.Registry W}

/-- An entry of a kind that no application has added. -/
theorem Interceptor.create_verdict {p : Config.InterceptorProperties} (h : registry.lookup p.kind = none) (w : W) :
    Verdict p.Made p.Misnamed (create registry p.kind p.config w).2 := by
  obtain ⟨kind, config⟩ := p
  rw [create, h]
  by_cases hheader : kind = "header"
  · subst hheader
    rw [if_pos (beq_self_eq_true _)]
    cases hshape : HeaderConfig.decoder.ofJson config with
    | error f =>
      refine .refused _ ?_ ?_
      · rintro (⟨-, hc, -⟩ | ⟨hkind, -⟩)
        · exact nomatch hshape.symm.trans hc
        · simp at hkind
      · rintro ⟨-, c, hc, -⟩
        exact nomatch hshape.symm.trans hc
    | ok c =>
      refine (headers_verdict c).of_iff ⟨fun hfit => .header rfl hshape hfit, ?_⟩ ⟨fun hfit => ⟨rfl, c, hshape, hfit⟩, ?_⟩
      · rintro (⟨-, hc, hfit⟩ | ⟨hkind, -⟩)
        · exact Except.ok.inj (hshape.symm.trans hc) ▸ hfit
        · simp at hkind
      · rintro ⟨-, c', hc, hfit⟩
        exact Except.ok.inj (hshape.symm.trans hc) ▸ hfit
  · rw [if_neg (by simpa using hheader)]
    have hnamed : ¬ Config.InterceptorProperties.Misnamed ⟨kind, config⟩ := fun h => hheader h.1
    by_cases hbasic : kind = "basic_auth"
    · subst hbasic
      rw [if_pos (beq_self_eq_true _)]
      cases hshape : Credentials.decoder.ofJson config with
      | error f =>
        refine .refused _ ?_ hnamed
        rintro (⟨hkind, -, -⟩ | ⟨-, hc⟩)
        · exact hheader hkind
        · exact nomatch hshape.symm.trans hc
      | ok c => exact .made _ (.basicAuth rfl hshape) hnamed
    · rw [if_neg (by simpa using hbasic)]
      refine .refused _ ?_ hnamed
      rintro (⟨hkind, -, -⟩ | ⟨hkind, -⟩)
      · exact hheader hkind
      · exact hbasic hkind

theorem Blueprint.withConfigured_verdict : ∀ {ps : List Config.InterceptorProperties} (b : Blueprint W) (w : W),
    (∀ p ∈ ps, registry.lookup p.kind = none) →
      Verdict (∀ p ∈ ps, p.Made) (Config.Stopped ps) (withConfigured registry ps b w).2
  | [], b, w, _ => .made b nofun Config.stopped_nil
  | p :: ps, b, w, h => by
    obtain ⟨hp, hps⟩ := List.forall_mem_cons.mp h
    rw [List.forall_mem_cons, Config.stopped_cons]
    have hrest (i : Interceptor W) (w' : W) := withConfigured_verdict (b.withInterceptor i) w' hps
    have hboth := (Interceptor.create_verdict hp w).bind fun i _ =>
      hrest i (Interceptor.create registry p.kind p.config w).1
    rw [withConfigured]
    cases hmade : Interceptor.create registry p.kind p.config w with
    | mk w' result =>
      rw [hmade] at hboth
      cases result <;> exact hboth

namespace Blueprint

variable (wire : Wire W) (endpoint : Endpoint) (p : Config.Properties)

theorem startOf_verdict :
    Verdict (p.Starts wire ∧ ∀ f ∈ p.defaultHeaders, Interceptor.Fits f)
      (p.Starts wire ∧ ¬ ∀ f ∈ p.defaultHeaders, Interceptor.Fits f) (startOf wire endpoint p) := by
  let settings : WireSettings := ⟨p.connectTimeout, p.followRedirects, p.readTimeout⟩
  let transport := some (Transport.exchange wire settings endpoint.arity)
  have hall := (target_verdict (W := W) endpoint p.target).bind fun b _ =>
    (prepare_verdict wire settings).bind fun _ _ => defaults_verdict p.defaultHeaders { b with transport := transport }
  simp only [false_or] at hall
  have hparts : Verdict (p.Starts wire ∧ ∀ f ∈ p.defaultHeaders, Interceptor.Fits f)
      (p.Starts wire ∧ ¬ ∀ f ∈ p.defaultHeaders, Interceptor.Fits f) _ :=
    hall.of_iff ⟨fun h => ⟨⟨h.1, h.2.1⟩, h.2.2⟩, fun h => ⟨h.1.target, h.1.wire, h.2⟩⟩
      ⟨fun h => ⟨⟨h.1, h.2.1⟩, h.2.2⟩, fun h => ⟨h.1.target, h.1.wire, h.2⟩⟩
  rw [startOf]
  split
  · next t ht =>
    rw [ht] at hparts
    exact hparts
  · next ht =>
    rw [ht] at hparts
    exact hparts

/-- All settings of a client whose interceptors are of kinds that no application has added. -/
theorem ofProperties_verdict (h : ∀ i ∈ p.interceptors, registry.lookup i.kind = none) (w : W) :
    Verdict (p.Made wire) (p.Misnamed wire) (ofProperties registry wire endpoint p w).2 := by
  have hall := (startOf_verdict wire endpoint p).bind fun b _ => withConfigured_verdict b w h
  have hboth : Verdict (p.Made wire) (p.Misnamed wire) _ := hall.of_iff
    ⟨fun h => ⟨h.1.1, h.1.2, h.2⟩, fun h => ⟨⟨h.starts, h.defaults⟩, h.interceptors⟩⟩ (p.misnamed_iff wire)
  rw [ofProperties]
  cases hstart : startOf wire endpoint p with
  | error e =>
    rw [hstart] at hboth
    exact hboth
  | ok b =>
    rw [hstart] at hboth
    change Verdict _ _ (withConfigured registry p.interceptors b w).2 at hboth
    dsimp only
    cases hrest : withConfigured registry p.interceptors b w with
    | mk w' result =>
      rw [hrest] at hboth
      cases result with
      | error e => exact hboth
      | ok b' =>
        cases hboth with
        | made _ h hnot => exact .made _ h hnot

/-- Building from settings, and from the section of a client, if all interceptors are of kinds that no
    application has added. It succeeds if everything is right. It fails as a request with such a header
    field would if the first thing that is wrong is the name or the value of a header field, among the
    defaults or in the configuration of an interceptor. It fails as a configuration in all other cases: the
    section has another shape or cannot be read, the target is no URL, the wire cannot keep to its
    settings, the kind of an interceptor is unknown or its configuration has another shape. -/
theorem refused_by_part (registry : Interceptor.Registry W) (c : Config) (name : String) (w : W)
    (hp : ∀ i ∈ p.interceptors, registry.lookup i.kind = none)
    (hc : ∀ q, Config.Properties.load c name = .ok q → ∀ i ∈ q.interceptors, registry.lookup i.kind = none) :
    Verdict (p.Made wire) (p.Misnamed wire) (ofProperties registry wire endpoint p w).2 ∧
      Verdict (∃ q, Config.Properties.load c name = .ok q ∧ q.Made wire)
        (∃ q, Config.Properties.load c name = .ok q ∧ q.Misnamed wire)
        (ofConfig registry wire endpoint c name w).2 := by
  refine ⟨ofProperties_verdict wire endpoint p hp w, ?_⟩
  rw [ofConfig]
  cases hload : Config.Properties.load c name with
  | error e =>
    refine .refused _ ?_ ?_
    · rintro ⟨q, hq, -⟩
      cases hq
    · rintro ⟨q, hq, -⟩
      cases hq
  | ok q =>
    refine (ofProperties_verdict wire endpoint q (hc q hload) _).of_iff ?_ ?_
    · exact ⟨fun h => ⟨q, rfl, h⟩, fun ⟨q', hq', h⟩ => Except.ok.inj hq' ▸ h⟩
    · exact ⟨fun h => ⟨q, rfl, h⟩, fun ⟨q', hq', h⟩ => Except.ok.inj hq' ▸ h⟩

open Rehearsal in
/-- Nothing is wrong but a blank in the name of a default header field, and building fails as a request would.
    Without a section there is nothing wrong, and the client is built. -/
theorem refused_by_name :
    let p : Config.Properties := { Config.Properties.blank with defaultHeaders := [("bad name", "x")] }
    (∃ e, (ofProperties [] .deaf ⟨"m", .mono⟩ p (Stage.ofScript [])).2 = .error e ∧ e.Naming) ∧
      ∃ b, (ofConfig [] .deaf ⟨"m", .mono⟩ [] "orders" (Stage.ofScript [])).2 = .ok b := by
  intro p
  obtain ⟨hp, hc⟩ := refused_by_part .deaf ⟨"m", .mono⟩ p [] [] "orders" (Stage.ofScript [])
    (fun _ _ => rfl) (fun _ _ _ _ => rfl)
  have hname : ¬ ∀ f ∈ p.defaultHeaders, Interceptor.Fits f :=
    fun h => absurd (h ("bad name", "x") (.head _)).1 (by decide)
  have hblank : Config.Properties.load [] "orders" = .ok Config.Properties.blank := rfl
  exact ⟨hp.error_of_misnamed ⟨⟨nofun, rfl⟩, .inl hname⟩,
    hc.ok_of_made ⟨_, hblank, ⟨⟨nofun, rfl⟩, nofun, nofun⟩⟩⟩

end Blueprint

end
end Courier
