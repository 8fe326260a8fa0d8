import Courier.Proofs.Listener.Traffic
import Courier.Proofs.Within

/-! Pages that only a listener writes on.

    A page is what can be read off the surroundings of the notices so far. The other parts of a client leave
    it alone: hooks on the body of a request may write on it, and a part that runs such hooks does no more
    to it than they do. As long as somebody has the request, its body may be read, and hooks run, while the
    client waits, and after the call as well (`Request.Meanwhile`). On a stage, the events of a listener are
    such a page (`scripted_within`). -/

namespace Courier

variable {W E : Type}

/-! ### Pages -/

section Pages

variable (page : W → List E) (tell : Notice W → E)

/-- The notices are written on the page, one after the other. -/
def Writes (ns : List (Notice W)) (w w' : W) : Prop := page w' = page w ++ ns.map tell

/-- Changes among which are all that leave the page as it is. -/
structure Sparing (may : W → W → Prop) : Prop where
  changes : Changes may
  same : ∀ w w', SameView page w w' → may w w'

/-- Each notice is written on the page, whether the listener crashes over it or not. -/
def Listener.WritesDown (l : Listener W) : Prop := ∀ n w, Writes page tell [n] w (l.hear n w).1

/-- The log and the names of calls are not on the page. -/
structure LogApart [Ambient W] : Prop where
  record : ∀ level part message w, SameView page w (Ambient.record level part message w)
  freshId : ∀ w, SameView page w (Ambient.freshId w).1

/-- The log, the clock and the names of calls are not on the page. -/
structure AmbientApart [Ambient W] : Prop where
  within : AmbientWithin (SameView page)
  freshId : ∀ w, SameView page w (Ambient.freshId w).1

/-- What may happen while somebody has a request: the page stays as it is, or a hook on the body of the
    request is run, any number of times. -/
inductive Request.Meanwhile (r : Request W) : W → W → Prop
  | stays {w w'} : SameView page w w' → Meanwhile r w w'
  | hook {body tap} (chunk : Bytes) (w : W) : r.body = some body → tap ∈ body.taps →
      Meanwhile r w (tap chunk w)
  | trans {u v w} : Meanwhile r u v → Meanwhile r v w → Meanwhile r u w

/-- The parts of a client, its listener apart, do no more to the page than the hooks that they run. -/
structure Blueprint.Apart [Ambient W] (wire : Wire W) (b : Blueprint W) : Prop where
  transport : ∀ may, Sparing page may →
    (b.transport.getD (Transport.exchange wire ⟨none, true, none⟩ b.endpoint.arity)).Within (fun _ => may) may
  interceptors : ∀ may, Sparing page may → ∀ i ∈ b.interceptors, i.Within may
  rules : ∀ may, Sparing page may → ∀ r ∈ b.rules, r.Within (fun _ => may) may
  mappers : ∀ may, Sparing page may → ∀ m ∈ b.mappers, m.Within (fun _ => may) may

/-- The hooks that the caller has on its request are not on the page. While the client waits, or its policy
    thinks, or the caller takes its time between two elements, the body of the request may be read by whoever
    has it; `held` is the request as it is passed on. -/
structure CallApart [Ambient W] (b : Blueprint W) (request held : Request W)
    (reader : Reader W (Except Failure Json)) : Prop where
  request : request.Within (SameView page)
  pause : ∀ d w, held.Meanwhile page w (Ambient.pause d w)
  policy : ∀ p ∈ b.policy, p.Within (held.Meanwhile page)
  reader : ∀ seen w w', reader seen w = some w' → held.Meanwhile page w w'

/-- Behind a failure, nothing of the request's body is read any more. -/
def Reader.Releases (reader : Reader W (Except Failure Json)) : Prop :=
  ∀ seen e w w', reader (seen ++ [.error e]) w = some w' → SameView page w w'

/-- Nobody keeps the request, as no transport must once it has returned: neither behind a failure nor from
    the end of the call, in `w`, up to `later` is anything of its body read. -/
structure Released (reader : Reader W (Except Failure Json)) (w later : W) : Prop where
  failed : reader.Releases page
  ended : SameView page w later

end Pages

variable {page : W → List E} {tell : Notice W → E} {u v w : W} {ns ns' : List (Notice W)}

theorem SameView.changes : Changes (SameView page) := ⟨fun _ => rfl, fun h h' => Eq.trans h h'⟩

theorem Writes.of_same (h : SameView page v w) : Writes page tell [] v w :=
  h.symm.trans (List.append_nil _).symm

theorem Writes.keep (h : Writes page tell ns u v) (h' : SameView page v w) : Writes page tell ns u w :=
  Eq.trans h'.symm h

theorem Writes.trans (h : Writes page tell ns u v) (h' : Writes page tell ns' v w) :
    Writes page tell (ns ++ ns') u w := by
  have hpage : page w = page u ++ ns.map tell ++ ns'.map tell := Eq.trans h' (congrArg (· ++ _) h)
  rw [Writes, hpage, List.append_assoc, List.map_append]

theorem Request.Meanwhile.sparing (r : Request W) : Sparing page (r.Meanwhile page) where
  changes := ⟨fun _ => .stays rfl, .trans⟩
  same _ _ := .stays

/-- Whoever has a request does no more than changes that its hooks keep within. -/
theorem Request.Meanwhile.within {may : W → W → Prop} (hmay : Sparing page may) {r : Request W}
    (hr : r.Within may) (h : r.Meanwhile page w v) : may w v := by
  induction h with
  | stays h => exact hmay.same _ _ h
  | hook chunk w hbody htap => exact hr _ hbody _ htap chunk w
  | trans _ _ ih ih' => exact hmay.changes.trans ih ih'

/-- What a listener is told is written down, even if it crashes over it. -/
theorem Listener.WritesDown.notify [Ambient W] {l : Listener W} (hlog : LogApart page)
    (hl : l.WritesDown page tell) (n : Notice W) (w : W) : Writes page tell [n] w (l.notify n w) := by
  have hheard := hl n w
  rw [Listener.notify]
  rcases hear : l.hear n w with ⟨w', crashed⟩
  rw [hear] at hheard
  cases crashed with
  | false => exact hheard
  | true => exact hheard.keep (hlog.record _ _ _ w')

/-! ### Pages of stages -/

namespace Rehearsal

/-- Whether an event is one that a listener hears of. -/
def Event.isNotice : Event → Bool
  | .requestStarted _ _ _ _ _ => true
  | .requestBody _ => true
  | .responseReceived _ _ => true
  | .bodyElement _ => true
  | .errorReceived _ => true
  | .retryAttempt _ _ _ => true
  | _ => false

/-- What a listener has written down. -/
def Stage.heard (s : Stage) : List Event := s.events.reverse.filter Event.isNotice

variable {may : Stage → Stage → Prop}

theorem Stage.heard_note (e : Event) (s : Stage) :
    (s.note e).heard = s.heard ++ [e].filter Event.isNotice := by
  simp only [heard, note, List.reverse_cons, List.filter_append]

theorem Stage.heard_same {e : Event} (he : e.isNotice = false) (s : Stage) :
    SameView Stage.heard s (s.note e) := by
  rw [SameView, heard_note, List.filter_cons_of_neg (by rw [he]; exact Bool.false_ne_true)]
  exact (List.append_nil _).symm

theorem Stage.log_apart : LogApart Stage.heard := ⟨fun _ _ _ s => heard_same rfl s, fun _ => rfl⟩

theorem Stage.pause_apart (d : Duration) (s : Stage) : SameView Stage.heard s (Ambient.pause d s) := rfl

theorem recorder_writes_down (crashes : List String) : (recorder crashes).WritesDown Stage.heard .ofNotice := by
  intro n s
  have hnotice : (Event.ofNotice n).isNotice = true := by cases n <;> rfl
  have hpage := Stage.heard_note (.ofNotice n) s
  rwa [List.filter_cons_of_pos hnotice] at hpage

theorem watched_within (hmay : Sparing Stage.heard may) {α : Type} {pulled : Nat → Event}
    (hpulled : ∀ i, (pulled i).isNotice = false) : ∀ (items : List α) (i : Nat),
    Stream.Within (fun _ => may) may (watched pulled i items)
  | [], _ => hmay.changes.refl
  | _ :: items, i => fun s =>
    ⟨hmay.same _ _ (Stage.heard_same (hpulled i) s), watched_within hmay hpulled items (i + 1)⟩

theorem lazyResponse_within (hmay : Sparing Stage.heard may) (call status : Nat) (headers : Http.Headers)
    (data : Except Failure Bytes) {items : Stream Stage (Except Failure Json)}
    (h : items.Within (fun _ => may) may) :
    (lazyResponse call status headers data items).Within (fun _ => may) may where
  body s := ⟨hmay.same _ _ (Stage.heard_same rfl s), h⟩
  data s := hmay.same _ _ (Stage.heard_same rfl s)

theorem answer_within (hmay : Sparing Stage.heard may) (call : Nat) {outcome : Outcome} {r : Response Stage}
    (h : outcome.answer call = .ok r) : r.Within (fun _ => may) may := by
  cases outcome with
  | fail e => cases h
  | buffered r =>
    cases h
    exact ⟨fun s => ⟨hmay.changes.refl s, Stream.ofList_within hmay.changes _⟩, hmay.changes.refl⟩
  | items status headers data elements =>
    cases h
    exact lazyResponse_within hmay call status headers data (watched_within hmay (fun _ => rfl) elements 0)
  | lines status headers data chunks =>
    cases h
    exact lazyResponse_within hmay call status headers data
      (Codec.decodeLines_within hmay.changes (watched_within hmay (fun _ => rfl) chunks 0))

theorem send_within (hmay : Sparing Stage.heard may) : ∀ {t : Step Stage (Except Failure Bytes)} {s : Stage},
    t.Within (fun _ => may) may s → may s (send t).1
  | .done _, _, h => h
  | .item s (.error _) _, _, ⟨h, _⟩ => hmay.changes.trans h (hmay.same _ _ (Stage.heard_same rfl s))
  | .item s (.ok chunk) more, _, ⟨h, hmore⟩ => by
    have hnoted : SameView Stage.heard s (s.note (.sent chunk)) := Stage.heard_same rfl s
    rw [send]
    exact hmay.changes.trans h (hmay.changes.trans (hmay.same _ _ hnoted) (send_within hmay (hmore _)))
  | .never _, _, h => h

theorem sendBody_within (hmay : Sparing Stage.heard may) {r : Request Stage} (hr : r.Within may) (s : Stage) :
    may s (sendBody r s).1 := by
  rw [sendBody]
  cases hb : r.body with
  | none => exact hmay.changes.refl s
  | some b => exact send_within hmay (Body.subscribe_within hmay.changes (hr b hb) s)

theorem play_within (hmay : Sparing Stage.heard may) (scene : Scene) (call : Nat) {r : Request Stage}
    (hr : r.Within may) (s : Stage) : may s (scene.play call r s).1 ∧
      ∀ response, (scene.play call r s).2 = .ok response → response.Within (fun _ => may) may := by
  have hsent : may s (if scene.readsBody then sendBody r s else (s, .ok ())).1 := by
    split
    · exact sendBody_within hmay hr s
    · exact hmay.changes.refl s
  rw [Scene.play]
  generalize (if scene.readsBody then sendBody r s else (s, .ok ())) = sent at hsent
  obtain ⟨s₁, e | _ | _⟩ := sent
  · exact ⟨hsent, fun response h => by cases h⟩
  · refine ⟨hmay.changes.trans hsent ?_, fun response h => answer_within hmay call h⟩
    simp only
    split
    · exact hmay.changes.refl s₁
    · exact hmay.same _ _ (Stage.pause_apart _ s₁)
  · exact ⟨hsent, fun response h => by cases h⟩

/-- Following the script writes only what the hooks on the body of a request write. -/
theorem scripted_within (hmay : Sparing Stage.heard may) : scripted.Within (fun _ => may) may := by
  intro r hr s
  have hnoted : ∀ scenes, may s { s.note (.transport (s.calls + 1) s.millis r.method r.uri.text r.headers) with
      calls := s.calls + 1, scenes := scenes } := fun scenes => hmay.same _ _ (Stage.heard_same rfl s)
  simp only [scripted, perform, Stage.note]
  cases s.scenes with
  | nil => exact ⟨hnoted _, fun response h => by cases h⟩
  | cons scene scenes =>
    obtain ⟨hplayed, hresponse⟩ := play_within hmay scene (s.calls + 1) hr _
    exact ⟨hmay.changes.trans (hnoted scenes) hplayed, hresponse⟩

theorem appendHeader_body (name value : String) (r : Request Stage) : (appendHeader name value r).body = r.body := by
  rw [appendHeader, Request.withHeader]
  cases Request.parseHeader name value <;> rfl

/-- An edit runs no hook and adds none. -/
theorem edit_within (hmay : Sparing Stage.heard may) (e : Edit) : e.interceptor.Within may := by
  intro r hr s
  have happended : ∀ name value, (appendHeader name value r).Within may :=
    fun name value => by rwa [Request.Within, appendHeader_body]
  cases e with
  | append name value => exact ⟨hmay.changes.refl s, happended name value⟩
  | setPath path => exact ⟨hmay.changes.refl s, hr⟩
  | tagPath => exact ⟨hmay.changes.refl s, happended _ _⟩
  | count id => exact ⟨hmay.same _ _ rfl, happended _ _⟩
  | dropBody => exact ⟨hmay.changes.refl s, fun body h => by cases h⟩
  | clearHeaders => exact ⟨hmay.changes.refl s, hr⟩

theorem persistent_apart (wire : Wire Stage) : persistent.Apart Stage.heard wire where
  transport _ hmay := scripted_within hmay
  interceptors _ hmay := List.forall_mem_singleton.mpr (edit_within hmay _)
  rules _ _ := List.forall_mem_singleton.mpr Status.Rule.standard_within
  mappers _ hmay := List.forall_mem_singleton.mpr (Mapper.ignore404_within hmay.changes)

end Rehearsal
end Courier
