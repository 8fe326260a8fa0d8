import Courier.Proofs.Alike.Parts
import Courier.Proofs.Alike.Request
import Courier.Rehearsal.Parts

/-! What the parts on a stage see.

    All that happens on a stage is written down, and calls get names; nobody looks at either. So the
    transport that follows the script does the same on two stages that differ in nothing else
    (`scripted_alike`). -/

namespace Courier

variable {V W : Type} {agree : V → W → Prop}

/-! ### Lines -/

namespace Codec

theorem emitLines_alike {next : Stream V (Except Failure Json)} {next' : Stream W (Except Failure Json)}
    (h : next.Alike agree next') (ls : List Bytes) : (emitLines next ls).Alike agree (emitLines next' ls) := by
  induction ls with
  | nil => exact h
  | cons l ls ih =>
    rw [emitLines, emitLines]
    split
    · exact ih
    · intro v w hv
      cases decodeText l with
      | ok j => exact ⟨hv, rfl, ih⟩
      | error e => exact ⟨hv, rfl, fun _ _ h => h⟩

theorem linesFrom_alike : ∀ {s : Step V (Except Failure Bytes)} {t : Step W (Except Failure Bytes)},
    s.Alike agree t → ∀ buffer, (linesFrom buffer s).Alike agree (linesFrom buffer t)
  | .done _, .done _, h, buffer => by
    rw [linesFrom, linesFrom]
    split
    · exact h
    · exact ⟨h, rfl, fun _ _ h => h⟩
  | .item _ (.error _) _, .item _ _ _, ⟨hv, rfl, _⟩, _ => ⟨hv, rfl, fun _ _ h => h⟩
  | .item v (.ok chunk) _, .item w _ _, ⟨hv, rfl, hmore⟩, buffer => by
    rw [linesFrom, linesFrom]
    exact emitLines_alike (fun v w h => linesFrom_alike (hmore v w h) _) _ v w hv
  | .never _, .never _, h, _ => h

/-- Chunks that are alike have the same lines. -/
theorem decodeLines_alike {chunks : Stream V (Except Failure Bytes)} {chunks' : Stream W (Except Failure Bytes)}
    (h : chunks.Alike agree chunks') : (decodeLines chunks).Alike agree (decodeLines chunks') :=
  fun v w hv => linesFrom_alike (h v w hv) []

end Codec

/-! ### Stages -/

namespace Rehearsal

/-- The stage without what was written down, and without the names it gave. -/
def Stage.unwritten (s : Stage) : Stage := { s with events := [], ids := 0 }

/-- Stages that look the same. -/
def Stage.Same (s t : Stage) : Prop := s.unwritten = t.unwritten

theorem Stage.same_iff {s t : Stage} : s.Same t ↔
    s.elapsed = t.elapsed ∧ s.scenes = t.scenes ∧ s.calls = t.calls ∧ s.tallies = t.tallies := by
  simp [Same, unwritten]

theorem Stage.Same.note {s t : Stage} (h : s.Same t) (e e' : Event) : (s.note e).Same (t.note e') := h

theorem watched_alike {α : Type} (pulled : Nat → Event) : ∀ (i : Nat) (items : List α),
    Stream.Alike Stage.Same (watched pulled i items) (watched pulled i items)
  | _, [], _, _, h => h
  | i, _ :: items, _, _, h => ⟨h, rfl, watched_alike pulled (i + 1) items⟩

theorem send_alike : ∀ {s t : Step Stage (Except Failure Bytes)}, s.Alike Stage.Same t →
    Stage.Same (send s).1 (send t).1 ∧ (send s).2 = (send t).2
  | .done _, .done _, h => ⟨h, rfl⟩
  | .item _ (.error _) _, .item _ _ _, ⟨hv, rfl, _⟩ => ⟨hv, rfl⟩
  | .item s (.ok chunk) _, .item t _ _, ⟨hv, rfl, hmore⟩ => by
    rw [send, send]
    exact send_alike (hmore _ _ (hv.note (.sent chunk) (.sent chunk)))
  | .never _, .never _, h => ⟨h, rfl⟩

theorem sendBody_alike {r r' : Request Stage} (hr : r.Alike Stage.Same r') {s t : Stage} (h : s.Same t) :
    Stage.Same (sendBody r s).1 (sendBody r' t).1 ∧ (sendBody r s).2 = (sendBody r' t).2 := by
  have hbody := hr.body
  rw [sendBody, sendBody]
  generalize r.body = b at hbody ⊢
  generalize r'.body = b' at hbody ⊢
  cases hbody with
  | none => exact ⟨h, rfl⟩
  | some hb => exact send_alike (hb.subscribe s t h)

theorem lazyResponse_alike (call status : Nat) (headers : Http.Headers) (data : Except Failure Bytes)
    {items : Stream Stage (Except Failure Json)} (h : items.Alike Stage.Same items) :
    (lazyResponse call status headers data items).Alike Stage.Same
      (lazyResponse call status headers data items) :=
  ⟨rfl, rfl, fun _ _ hs => ⟨hs, h⟩, fun _ _ hs => ⟨hs, rfl⟩⟩

theorem answer_alike (call : Nat) (outcome : Outcome) {s t : Stage} (h : s.Same t) :
    ResultsAlike Stage.Same (s, outcome.answer call) (t, outcome.answer call) := by
  cases outcome with
  | fail e => exact .refused e h
  | buffered r => exact .arrived h ⟨rfl, rfl, fun _ _ hs => ⟨hs, ofList_alike _⟩, fun _ _ hs => ⟨hs, rfl⟩⟩
  | items status headers data elements =>
    exact .arrived h (lazyResponse_alike call status headers data (watched_alike _ 0 elements))
  | lines status headers data chunks =>
    exact .arrived h (lazyResponse_alike call status headers data
      (Codec.decodeLines_alike (watched_alike _ 0 chunks)))

theorem pause_same (d : Duration) {s t : Stage} (h : s.Same t) :
    Stage.Same (Ambient.pause d s) (Ambient.pause d t) := by
  obtain ⟨helapsed, hscenes, hcalls, htallies⟩ := Stage.same_iff.mp h
  refine Stage.same_iff.mpr ⟨?_, hscenes, hcalls, htallies⟩
  exact congrArg (fun e : Duration => Duration.ofNanos (e.nanos + (d.least Stage.longestWait).nanos)) helapsed

/-- Plays a scene: what `perform` does when its script has one left. -/
def Scene.play (scene : Scene) (call : Nat) (r : Request Stage) (s : Stage) :
    Stage × Eventual Failure (Response Stage) :=
  match if scene.readsBody then sendBody r s else (s, .ok ()) with
  | (s, .error e) => (s, .error e)
  | (s, .never) => (s, .never)
  | (s, .ok ()) =>
    (if scene.delay.isZero then s else Ambient.pause scene.delay s, scene.outcome.answer call)

/-- A scene is played alike, whatever it is. -/
theorem play_alike (scene : Scene) (call : Nat) {r r' : Request Stage} (hr : r.Alike Stage.Same r')
    {s t : Stage} (h : s.Same t) :
    ResultsAlike Stage.Same (scene.play call r s) (scene.play call r' t) := by
  have hsent : Stage.Same (if scene.readsBody then sendBody r s else (s, .ok ())).1
        (if scene.readsBody then sendBody r' t else (t, .ok ())).1 ∧
      (if scene.readsBody then sendBody r s else (s, .ok ())).2
        = (if scene.readsBody then sendBody r' t else (t, .ok ())).2 := by
    split
    · exact sendBody_alike hr h
    · exact ⟨h, rfl⟩
  rw [Scene.play, Scene.play]
  generalize (if scene.readsBody then sendBody r s else (s, .ok ())) = sent at hsent ⊢
  generalize (if scene.readsBody then sendBody r' t else (t, .ok ())) = sent' at hsent ⊢
  obtain ⟨s₁, result⟩ := sent
  obtain ⟨t₁, result'⟩ := sent'
  obtain ⟨hsame, rfl⟩ : Stage.Same s₁ t₁ ∧ result = result' := hsent
  cases result with
  | error e => exact .refused e hsame
  | never => exact .never hsame
  | ok _ =>
    refine answer_alike call scene.outcome ?_
    split
    · exact hsame
    · exact pause_same scene.delay hsame

/-- The script is followed alike on stages that look the same. -/
theorem scripted_alike : scripted.Alike Stage.Same (Request.Alike Stage.Same) scripted := by
  intro r r' hr s t h
  obtain ⟨helapsed, hscenes, hcalls, htallies⟩ := Stage.same_iff.mp h
  have hnext : ∀ events events' scenes, Stage.Same ⟨events, s.elapsed, scenes, t.calls + 1, s.tallies, s.ids⟩
      ⟨events', t.elapsed, scenes, t.calls + 1, t.tallies, t.ids⟩ :=
    fun _ _ _ => Stage.same_iff.mpr ⟨helapsed, rfl, rfl, htallies⟩
  simp only [scripted, perform, Stage.note, hscenes, hcalls]
  cases t.scenes with
  | nil => exact .refused _ (hnext _ _ _)
  | cons scene scenes =>
    exact play_alike scene _ hr (hnext _ _ scenes)

theorem appendHeader_alike (name value : String) {r r' : Request Stage} (h : r.Alike Stage.Same r') :
    (appendHeader name value r).Alike Stage.Same (appendHeader name value r') := by
  rw [appendHeader, appendHeader, Request.withHeader, Request.withHeader, h.headers]
  cases Request.parseHeader name value with
  | error e => exact h
  | ok header => exact ⟨h.method, h.uri, rfl, h.body⟩

/-- An edit changes requests that are alike in the same way. -/
theorem edit_alike (e : Edit) : e.interceptor.Alike Stage.Same (Request.Alike Stage.Same) e.interceptor where
  name := rfl
  apply := by
    intro r r' hr s t h
    cases e with
    | append name value => exact ⟨h, appendHeader_alike name value hr⟩
    | setPath path => exact ⟨h, ⟨hr.method, congrArg (·.withPath path) hr.uri, hr.headers, hr.body⟩⟩
    | tagPath =>
      simp only [Edit.interceptor, Edit.apply, hr.uri]
      exact ⟨h, appendHeader_alike _ _ hr⟩
    | count id =>
      obtain ⟨helapsed, hscenes, hcalls, htallies⟩ := Stage.same_iff.mp h
      simp only [Edit.interceptor, Edit.apply, Stage.count, htallies]
      exact ⟨Stage.same_iff.mpr ⟨helapsed, hscenes, hcalls, rfl⟩, appendHeader_alike _ _ hr⟩
    | dropBody => exact ⟨h, ⟨hr.method, hr.uri, hr.headers, .none⟩⟩
    | clearHeaders => exact ⟨h, ⟨hr.method, hr.uri, rfl, hr.body⟩⟩

end Rehearsal
end Courier
