import Courier.Proofs.Caller
import Courier.Proofs.Retry.Run

/-! Whole calls follow a path.

    Whatever a caller does with a response, the call is a path through the phases (`call_path`). If it
    reads the body to its end, the marks of the path say what it gets (`call_toEnd`). -/

namespace Courier.Retry

variable {W : Type}

/-- The failure of the call. -/
def Phase.failure? : Phase W → Option Failure
  | .failed e => some e
  | _ => none

/-- The failure that ends a body. -/
def Phase.refusal (s : Phase W) : List (Except Failure Json) := s.failure?.toList.map .error

/-- Whether nothing more can happen. -/
def Phase.over : Phase W → Prop
  | .due _ _ _ => False
  | .reading _ _ _ _ => False
  | .asking _ _ _ _ => False
  | _ => True

theorem Phase.over_of_waits : ∀ {s : Phase W}, s.waits → s.over
  | .stalled, _ => trivial
  | .unanswered, _ => trivial

theorem Phase.refusal_of_waits : ∀ {s : Phase W}, s.waits → s.refusal = []
  | .stalled, _ => rfl
  | .unanswered, _ => rfl

/-- Status and headers of the first attempt that delivers an element or comes to its end; `last` is what
    arrived last. -/
def handedOut (last : Option (Nat × Http.Headers)) : List Mark → Option (Nat × Http.Headers)
  | [] => none
  | .arrived status headers :: ms => handedOut (some (status, headers)) ms
  | .delivered _ :: _ => last
  | .finished :: _ => last
  | _ :: ms => handedOut last ms

theorem handedOut_of_not_yields : ∀ {ms : List Mark} (last : Option (Nat × Http.Headers)),
    ms.all (!·.yields) → handedOut last ms = none
  | [], _, _ => rfl
  | m :: ms, last, h => by
    rw [List.all_cons, Bool.and_eq_true] at h
    have ih := fun last => handedOut_of_not_yields last h.2
    cases m with
    | delivered _ => cases h.1
    | finished => cases h.1
    | _ => exact ih _

theorem handedOut_append (status : Nat) (headers : Http.Headers) {m : Mark} (hm : m.yields)
    (rest : List Mark) : ∀ {ms : List Mark} (last : Option (Nat × Http.Headers)),
    ms.all (!·.yields) → handedOut last (ms ++ .arrived status headers :: m :: rest) = some (status, headers)
  | [], _, _ => by
    cases m with
    | delivered _ => rfl
    | finished => rfl
    | _ => cases hm
  | m' :: ms, last, h => by
    rw [List.all_cons, Bool.and_eq_true] at h
    have ih := fun last => handedOut_append status headers hm rest last h.2
    cases m' with
    | delivered _ => cases h.1
    | finished => cases h.1
    | _ => exact ih _

variable [Ambient W] {acts : W → W → Prop} {a : Attempts W}

/-! ### Reading a body -/

omit [Ambient W] in
/-- A reader that always goes on does not stop. -/
theorem not_stopped {r : Reader W (Except Failure Json)} (hall : ∀ seen w, (r seen w).isSome)
    {seen : List (Except Failure Json)} {w : W} : r seen w ≠ none :=
  Option.isSome_iff_ne_none.mp (hall seen w)

/-- What a reader gets of a body is what the path has delivered, and a failure if that ended it. It waits for
    good where nothing comes of the call. -/
theorem readBy_path (r : Reader W (Except Failure Json))
    (hr : ∀ seen w w', r seen w = some w' → acts w w') : ∀ (t : Step W (Except Failure Json))
    (seen : List (Except Failure Json)) (w : W) (s : Phase W), Serves acts a t w s →
    ∃ ms s', Path acts a w s ms (t.readBy r seen).1 s' ∧ s'.idle ∧
      (t.readBy r seen).2 = ⟨seen ++ (elements ms).map .ok ++ s'.refusal, s'.waits⟩ ∧
      ((∀ seen w, (r seen w).isSome) → s'.over)
  | .done w', seen, w, s, ⟨ms, hp, hms⟩ => ⟨ms, .complete, hp, trivial,
      by simp [Step.readBy, hms, Phase.refusal, Phase.failure?, Phase.waits], fun _ => trivial⟩
  | .never w', seen, w, s, ⟨ms, s', hp, hwaits, hms⟩ => ⟨ms, s', hp, Phase.idle_of_waits hwaits,
      by simp [Step.readBy, hms, Phase.refusal_of_waits hwaits, hwaits], fun _ => Phase.over_of_waits hwaits⟩
  | .item w' (.error e) more, seen, w, s, ⟨⟨ms, hp, hms⟩, hmore⟩ => by
    rw [Step.readBy]
    cases hv : r (seen ++ [.error e]) w' with
    | none => exact ⟨ms, .failed e, hp, trivial, by simp [hms, Phase.refusal, Phase.failure?, Phase.waits],
        fun _ => trivial⟩
    | some v =>
      have hpause : Path acts a w' (.failed e) [] v (.failed e) := .single (.pause trivial (hr _ _ _ hv))
      have hend := hp.trans hpause
      rw [List.append_nil] at hend
      -- behind a failure the reader finds nothing
      subst hmore
      exact ⟨ms, .failed e, hend, trivial,
        by simp [Step.readBy, Stream.empty, hms, Phase.refusal, Phase.failure?, Phase.waits], fun _ => trivial⟩
  | .item w' (.ok j) more, seen, w, s, ⟨ms, items, session, queue, n, hp, hms, hmore⟩ => by
    rw [Step.readBy]
    cases hv : r (seen ++ [.ok j]) w' with
    | none =>
      exact ⟨ms, _, hp, trivial, by simp [hms, Phase.refusal, Phase.failure?, Phase.waits],
        fun hall => absurd hv (not_stopped hall)⟩
    | some v =>
      obtain ⟨ms', s', hp', hidle, hseen, hover⟩ :=
        readBy_path r hr (more v) (seen ++ [.ok j]) v _ (hmore v)
      have hpause : Path acts a w' (.reading items session queue n) [] v (.reading items session queue n) :=
        .single (.pause trivial (hr _ _ _ hv))
      refine ⟨ms ++ ms', s', by simpa using hp.trans (hpause.trans hp'), hidle, ?_, hover⟩
      simp [hseen, elements_append, hms]

/-- Reads up to the first failure and does nothing else. -/
def untilFailure : Reader W (Except Failure Json) := fun seen w => match seen.getLast? with
  | some (.error _) => none
  | _ => some w

omit [Ambient W] in
theorem collect_fst : ∀ (t : Step W (Except Failure Json)) (seen : List (Except Failure Json)),
    t.collect.1 = (t.readBy untilFailure seen).1
  | .done _, _ => rfl
  | .never _, _ => rfl
  | .item w (.error e) more, seen => by simp [Step.collect, Step.readBy, untilFailure]
  | .item w (.ok j) more, seen => by
    have ih := collect_fst (more w) (seen ++ [.ok j])
    simp only [Step.collect, Step.readBy, untilFailure, List.getLast?_append, List.getLast?_singleton,
      Option.some_or]
    rw [ih.symm]
    rcases (more w).collect with ⟨v, e | js | _⟩ <;> rfl

/-- What is left of a body when its response is handed out. -/
theorem handed_serves {p : Primed W} {resume : Failure → W → Outcome W} {session : Session W}
    {queue : List Failure} {n : Nat} (hrest : p.first = none → p.rest = .empty)
    (hresume : ∀ e v, (resume e v).Follows acts a (report a n e v) (.asking session (queue ++ [e]) e n))
    (v : W) : Serves acts a (splice (fun e v => (resume e v).elements) (p.rest v)) v
      (p.phase session queue n) := by
  cases hf : p.first with
  | some j =>
    rw [Primed.phase, hf]
    exact splice_serves _ (fun e v => elements_serves _ (hresume e v)) _ _ _ rfl
  | none => rw [Primed.phase, hf, hrest hf]; exact ⟨[], .stay, rfl⟩

/-- Reading the body of a response that was handed out: the element read ahead comes first. -/
theorem handed_readBy {p : Primed W} {resume : Failure → W → Outcome W} {session : Session W}
    {queue : List Failure} {n : Nat} (hrest : p.first = none → p.rest = .empty)
    (hresume : ∀ e v, (resume e v).Follows acts a (report a n e v) (.asking session (queue ++ [e]) e n))
    (r : Reader W (Except Failure Json)) (hr : ∀ seen w w', r seen w = some w' → acts w w') (w : W) :
    ∃ ms s', Path acts a w (p.phase session queue n) ms
        ((Outcome.primed w p resume).elements.readBy r []).1 s' ∧ s'.idle ∧
      ((Outcome.primed w p resume).elements.readBy r []).2
        = ⟨(p.first.toList ++ elements ms).map .ok ++ s'.refusal, s'.waits⟩ ∧
      ((∀ seen w, (r seen w).isSome) → s'.over) := by
  have hserves := handed_serves hrest hresume
  rw [Outcome.elements]
  cases hf : p.first with
  | none => simpa using readBy_path r hr _ [] w _ (hserves w)
  | some j =>
    have hphase : (p.phase session queue n).refusal = [] ∧ (p.phase session queue n).waits = false := by
      rw [Primed.phase, hf]
      exact ⟨rfl, rfl⟩
    simp only [Step.readBy, List.nil_append]
    cases hv : r [.ok j] w with
    | none =>
      exact ⟨[], _, .stay, p.phase_idle session queue n, by simp [hphase, elements], fun hall => absurd hv (not_stopped hall)⟩
    | some v =>
      obtain ⟨ms, s', hp, hidle, hseen, hover⟩ := readBy_path r hr _ [.ok j] v _ (hserves v)
      have hpause := Path.single (.pause (a := a) (p.phase_idle session queue n) (hr _ _ _ hv))
      exact ⟨ms, s', hpause.trans hp, hidle, by simpa using hseen, hover⟩

/-- Reading a list never leaves the phase. -/
theorem ofList_readBy {s : Phase W} (hs : s.idle) (r : Reader W (Except Failure Json))
    (hr : ∀ seen w w', r seen w = some w' → acts w w') : ∀ (items seen : List (Except Failure Json))
    (w : W), Path acts a w s [] ((Stream.ofList items w).readBy r seen).1 s ∧
      ((∀ seen w, (r seen w).isSome) → ((Stream.ofList items w).readBy r seen).2 = ⟨seen ++ items, false⟩)
  | [], seen, w => ⟨.stay, fun _ => by rw [List.append_nil]; rfl⟩
  | item :: items, seen, w => by
    rw [Stream.ofList, Step.readBy]
    cases hv : r (seen ++ [item]) w with
    | none =>
      exact ⟨.stay, fun hall => absurd hv (not_stopped hall)⟩
    | some v =>
      obtain ⟨hp, hseen⟩ := ofList_readBy hs r hr items (seen ++ [item]) v
      exact ⟨(Path.single (.pause hs (hr _ _ _ hv))).trans hp, fun hall => by simpa using hseen hall⟩

/-- The elements of a response that was handed out. -/
def Primed.items (arity : Arity) (p : Primed W) (resume : Failure → W → Outcome W) :
    Stream W (Except Failure Json) := match arity with
  | .mono => Stream.ofList (p.first.toList.map .ok)
  | .flux => fun w => (Outcome.primed w p resume).elements

/-- Whatever is read of a response that was handed out, the call goes on along a path; with one result
    it has come to its end already. -/
theorem items_readBy (arity : Arity) {p : Primed W} {resume : Failure → W → Outcome W}
    {session : Session W} {queue : List Failure} {n : Nat} (hrest : p.first = none → p.rest = .empty)
    (hresume : ∀ e v, (resume e v).Follows acts a (report a n e v) (.asking session (queue ++ [e]) e n))
    (r : Reader W (Except Failure Json)) (hr : ∀ seen w w', r seen w = some w' → acts w w') (w : W) :
    ∃ ms s', Path acts a w (p.phase session queue n) ms ((p.items arity resume w).readBy r []).1 s' ∧
      s'.idle ∧ (arity = .mono → ms = [] ∧ s'.refusal = [] ∧ s'.waits = false) ∧
      (ms ≠ [] ∨ (∀ seen w, (r seen w).isSome) → ((p.items arity resume w).readBy r []).2
        = ⟨(p.first.toList ++ elements ms).map .ok ++ s'.refusal, s'.waits⟩) ∧
      ((∀ seen w, (r seen w).isSome) → arity = .flux → s'.over) := by
  cases arity with
  | mono =>
    obtain ⟨hp, hseen⟩ := ofList_readBy (a := a) (p.phase_idle session queue n) r hr
      (p.first.toList.map .ok) [] w
    have hphase : (p.phase session queue n).refusal = [] ∧ (p.phase session queue n).waits = false := by
      rw [Primed.phase]
      cases p.first <;> exact ⟨rfl, rfl⟩
    refine ⟨[], _, hp, p.phase_idle session queue n, fun _ => ⟨rfl, hphase⟩, fun hall => ?_,
      fun _ h => by cases h⟩
    rw [Primed.items, hseen (hall.resolve_left fun hms => hms rfl), hphase.1, hphase.2]
    simp [elements]
  | flux =>
    obtain ⟨ms, s', hp, hidle, hseen, hover⟩ := handed_readBy hrest hresume r hr w
    exact ⟨ms, s', hp, hidle, (fun h => by cases h), fun _ => hseen, fun hall _ => hover hall⟩

/-! ### Calls -/

omit [Ambient W] in
theorem toResponse_data (arity : Arity) (p : Primed W) (resume : Failure → W → Outcome W) (w : W) :
    (toResponse arity p resume).data w = match (p.items arity resume w).collect with
      | (w, .ok js) => (w, .ok (Codec.encodeElements arity js))
      | (w, .error e) => (w, .error e)
      | (w, .never) => (w, .never) := rfl

omit [Ambient W] in
theorem serve_data (arity : Arity) (p : Primed W) (resume : Failure → W → Outcome W) (w : W) :
    ((toResponse arity p resume).serve .data w).1 = (p.items arity resume w).collect.1 := by
  rw [Response.serve, toResponse_data]
  rcases (p.items arity resume w).collect with ⟨v, e | js | _⟩ <;> rfl

omit [Ambient W] in
/-- Elements without a failure are collected as they are read. -/
theorem collect_snd : ∀ (t : Step W (Except Failure Json)) {seen : List (Except Failure Json)} {js : List Json},
    (t.readBy untilFailure seen).2 = ⟨seen ++ js.map .ok, false⟩ → t.collect.2 = .ok js
  | .never _, seen, js, h => by cases congrArg Got.waiting h
  | .done _, seen, js, h => by
    have hnone : js.map Except.ok = ([] : List (Except Failure Json)) :=
      List.append_cancel_left ((congrArg Got.items h).symm.trans (List.append_nil seen).symm)
    rw [List.map_eq_nil_iff.mp hnone]
    rfl
  | .item w (.error e) more, seen, js, h => by
    -- a failure would be among the items
    have hitem : [Except.error e] = js.map Except.ok := by
      simpa [Step.readBy, untilFailure] using h
    cases js with
    | nil => cases hitem
    | cons j js => cases hitem
  | .item w (.ok j) more, seen, js, h => by
    have hread : ((more w).readBy untilFailure (seen ++ [.ok j])).2 = ⟨seen ++ js.map .ok, false⟩ := by
      simpa [Step.readBy, untilFailure] using h
    obtain ⟨later, hlater⟩ := (more w).readBy_grows untilFailure (seen ++ [.ok j])
    have hjs : Except.ok j :: later = js.map Except.ok := by
      rw [hread, List.append_assoc] at hlater
      exact (List.append_cancel_left hlater).symm
    cases js with
    | nil => cases hjs
    | cons j' js =>
      obtain ⟨hj, rfl⟩ := List.cons.inj hjs
      cases hj
      rw [Step.collect]
      have ih : (more w).collect.2 = .ok js := collect_snd (more w) (by rw [hread, List.map_cons]; simp)
      rcases hc : (more w).collect with ⟨v, e | js' | _⟩ <;> rw [hc] at ih <;> cases ih
      rfl

/-- Whatever a caller does with a response that was handed out, the call goes on along a path, but with one
    result no further. If there are marks on it and no failure at its end, the caller has all elements. -/
theorem serve_takes (arity : Arity) {p : Primed W} {resume : Failure → W → Outcome W}
    {session : Session W} {queue : List Failure} {n : Nat} (hrest : p.first = none → p.rest = .empty)
    (hresume : ∀ e v, (resume e v).Follows acts a (report a n e v) (.asking session (queue ++ [e]) e n)) :
    ∀ {use : Use W}, use.Keeps acts → ∀ w, ∃ ms s', Path acts a w (p.phase session queue n) ms
      ((toResponse arity p resume).serve use w).1 s' ∧ s'.idle ∧ (arity = .mono → ms = []) ∧
      (ms ≠ [] → s'.refusal = [] → s'.waits = false →
        ((toResponse arity p resume).serve use w).2 = use.takes arity (p.first.toList ++ elements ms))
  | .leave, _, w => ⟨[], _, .stay, p.phase_idle session queue n, fun _ => rfl, fun h => absurd rfl h⟩
  | .body reader, hreader, w => by
    have hserve : (toResponse arity p resume).serve (.body reader) w
        = (((p.items arity resume).readBy reader w).1, .items ((p.items arity resume).readBy reader w).2) := rfl
    rw [hserve, Stream.readBy]
    cases hv : reader [] w with
    | none => exact ⟨[], _, .stay, p.phase_idle session queue n, fun _ => rfl, fun h => absurd rfl h⟩
    | some v =>
      obtain ⟨ms, s', hp, hidle, hmono, hread, -⟩ := items_readBy arity hrest hresume reader hreader v
      have hpause := Path.single (.pause (a := a) (p.phase_idle session queue n) (hreader _ _ _ hv))
      refine ⟨ms, s', hpause.trans hp, hidle, fun h => (hmono h).1, fun hms hrefusal hwaits => ?_⟩
      rw [Use.takes, hread (.inl hms), hrefusal, hwaits, List.append_nil]
  | .data, hrefl, w => by
    have huntil : ∀ seen w w', untilFailure (W := W) seen w = some w' → acts w w' := by
      intro seen w w' h
      rw [untilFailure] at h
      split at h <;> cases h
      exact hrefl w
    obtain ⟨ms, s', hp, hidle, hmono, hread, -⟩ := items_readBy arity hrest hresume untilFailure huntil w
    rw [serve_data, collect_fst _ []]
    refine ⟨ms, s', hp, hidle, fun h => (hmono h).1, fun hms hrefusal hwaits => ?_⟩
    have hseen := hread (.inl hms)
    rw [hrefusal, hwaits, List.append_nil] at hseen
    have hcollect := collect_snd (p.items arity resume w) hseen
    rw [Response.serve, toResponse_data]
    rcases hc : (p.items arity resume w).collect with ⟨v, e | js | _⟩ <;> rw [hc] at hcollect <;> cases hcollect
    rfl

variable (policy : Policy W) (listener : Listener W) (endpoint : Endpoint) (inner : Exchange W)
  (request : Request W)

theorem exchange_execute (w : W) : (exchange policy listener endpoint inner).execute request w
    = match run ⟨endpoint.key, listener, inner, request⟩ policy w with
      | .failed w e => (w, .error e)
      | .never w => (w, .never)
      | .primed w p resume => (w, .ok (toResponse endpoint.arity p resume)) := rfl

theorem call_of_failed {w w' : W} {e : Failure}
    (ho : run ⟨endpoint.key, listener, inner, request⟩ policy w = .failed w' e) (use : Use W) :
    (exchange policy listener endpoint inner).call request use w = (w', .refused e) := by
  have hexecute : (exchange policy listener endpoint inner).execute request w = (w', .error e) := by
    rw [exchange_execute, ho]
  exact Exchange.call_of_error hexecute use

theorem call_of_never {w w' : W} (ho : run ⟨endpoint.key, listener, inner, request⟩ policy w = .never w')
    (use : Use W) : (exchange policy listener endpoint inner).call request use w = (w', .waiting) := by
  have hexecute : (exchange policy listener endpoint inner).execute request w = (w', .never) := by
    rw [exchange_execute, ho]
  exact Exchange.call_of_never hexecute use

theorem call_of_primed {w w' : W} {p : Primed W} {resume : Failure → W → Outcome W}
    (ho : run ⟨endpoint.key, listener, inner, request⟩ policy w = .primed w' p resume) (use : Use W) :
    (exchange policy listener endpoint inner).call request use w
      = (((toResponse endpoint.arity p resume).serve use w').1,
        .response p.status p.headers ((toResponse endpoint.arity p resume).serve use w').2) := by
  have hexecute : (exchange policy listener endpoint inner).execute request w
      = (w', .ok (toResponse endpoint.arity p resume)) := by rw [exchange_execute, ho]
  exact Exchange.call_of_ok hexecute use

/-- A call is a path that starts when the policy has been opened. -/
theorem call_path {use : Use W} (huse : use.Keeps acts) (w : W) :
    ∃ ms s, Path acts ⟨endpoint.key, listener, inner, request⟩ (policy.opening w).1
      (.due (policy.opening w).2 [] 0) ms
      ((exchange policy listener endpoint inner).call request use w).1 s ∧ s.idle := by
  have hrun : (run ⟨endpoint.key, listener, inner, request⟩ policy w).Follows acts _ _ _ :=
    run_follows policy w
  cases ho : run ⟨endpoint.key, listener, inner, request⟩ policy w with
  | failed w' e =>
    rw [ho] at hrun
    obtain ⟨ms, hp, -⟩ := hrun
    rw [call_of_failed policy listener endpoint inner request ho]
    exact ⟨ms, _, hp, trivial⟩
  | never w' =>
    rw [ho] at hrun
    obtain ⟨ms, s, hp, hwaits, -⟩ := hrun
    rw [call_of_never policy listener endpoint inner request ho]
    exact ⟨ms, s, hp, Phase.idle_of_waits hwaits⟩
  | primed w' p resume =>
    rw [ho] at hrun
    obtain ⟨ms, session, queue, n, -, hp, hrest, hresume⟩ := hrun
    obtain ⟨ms', s', hp', hidle, -⟩ := serve_takes endpoint.arity hrest hresume huse w'
    rw [call_of_primed policy listener endpoint inner request ho]
    exact ⟨_, s', hp.trans hp', hidle⟩

/-- If the body is read to its end, the marks of the path say what the caller has of the call. -/
theorem call_toEnd {act : List (Except Failure Json) → W → W} (hact : ∀ seen w, acts w (act seen w))
    (w : W) :
    ∃ ms s, Path acts ⟨endpoint.key, listener, inner, request⟩ (policy.opening w).1
      (.due (policy.opening w).2 [] 0) ms
      ((exchange policy listener endpoint inner).call request (.toEnd act) w).1 s ∧ s.idle ∧
      match ((exchange policy listener endpoint inner).call request (.toEnd act) w).2 with
      | .refused e => handedOut none ms = none ∧ s = .failed e
      | .waiting => handedOut none ms = none ∧ s.waits
      | .response status headers taken => handedOut none ms = some (status, headers) ∧
        taken = .items ⟨(elements ms).map .ok ++ s.refusal, s.waits⟩ ∧
        (endpoint.arity = .flux → s.over) ∧
        (endpoint.arity = .mono → ms.dropLast.all (!·.yields) ∧ s.refusal = [] ∧ s.waits = false) := by
  have hrun : (run ⟨endpoint.key, listener, inner, request⟩ policy w).Follows acts _ _ _ :=
    run_follows policy w
  have hreader : ∀ seen w w', some (act seen w) = some w' → acts w w' := by
    intro seen w w' h
    cases h
    exact hact seen w
  cases ho : run ⟨endpoint.key, listener, inner, request⟩ policy w with
  | failed w' e =>
    rw [ho] at hrun
    obtain ⟨ms, hp, hms⟩ := hrun
    rw [call_of_failed policy listener endpoint inner request ho]
    exact ⟨ms, .failed e, hp, trivial, handedOut_of_not_yields none hms, rfl⟩
  | never w' =>
    rw [ho] at hrun
    obtain ⟨ms, s, hp, hwaits, hms⟩ := hrun
    rw [call_of_never policy listener endpoint inner request ho]
    exact ⟨ms, s, hp, Phase.idle_of_waits hwaits, handedOut_of_not_yields none hms, hwaits⟩
  | primed w' p resume =>
    rw [ho] at hrun
    obtain ⟨ms, session, queue, n, hms, hp, hrest, hresume⟩ := hrun
    obtain ⟨ms', s', hp', hidle, hmono, hseen, hover⟩ := items_readBy endpoint.arity hrest hresume
      (fun seen w => some (act seen w)) hreader (act [] w')
    have hflux := hover fun _ _ => rfl
    have hpause : Path acts ⟨endpoint.key, listener, inner, request⟩ w' (p.phase session queue n) []
        (act [] w') (p.phase session queue n) :=
      .single (.pause (p.phase_idle session queue n) (hact [] w'))
    have hserve : (toResponse endpoint.arity p resume).serve (.toEnd act) w'
        = (((p.items endpoint.arity resume (act [] w')).readBy (fun seen w => some (act seen w)) []).1,
          .items ((p.items endpoint.arity resume (act [] w')).readBy
            (fun seen w => some (act seen w)) []).2) := rfl
    have helements : elements (ms ++ p.marks ++ ms') = p.first.toList ++ elements ms' := by
      rw [elements_append, p.elements_marks hms]
    have hyields : (p.first.elim Mark.finished Mark.delivered).yields := by cases p.first <;> rfl
    have hhanded := handedOut_append p.status p.headers hyields ms' none hms
    rw [call_of_primed policy listener endpoint inner request ho, hserve]
    refine ⟨ms ++ p.marks ++ ms', s', ?_, hidle, ?_, ?_, hflux, fun h => ?_⟩
    · have hwhole := hp.trans (hpause.trans hp')
      rwa [List.nil_append] at hwhole
    · rw [List.append_assoc]
      exact hhanded
    · rw [hseen (.inr fun _ _ => rfl), helements]
    -- with one result nothing is marked behind the first element, so only the last mark yields
    · have hlast : (ms ++ p.marks).dropLast = ms ++ [.arrived p.status p.headers] := by
        rw [List.dropLast_append_of_ne_nil (by simp [Primed.marks])]
        rfl
      obtain ⟨hnil, hrefusal⟩ := hmono h
      rw [hnil, List.append_nil, hlast, List.all_append, hms]
      exact ⟨rfl, hrefusal⟩

end Courier.Retry
