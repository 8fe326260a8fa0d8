import Courier.Proofs.Noted
import Courier.Proofs.Within

/-! Parts that write no notes.

    Interceptors, status rules and mappers do in surroundings with notes what they do without them. What
    is quiet stays so behind rules and mappers: whoever reads it finds the notes as they were. -/

namespace Courier

variable {W E α : Type}

/-! ### Responses without notes -/

/-- A stream without its notes. -/
def Step.plain : Step (Noted W E) α → Step W α
  | .done v => .done v.world
  | .item v x more => .item v.world x fun w => plain (more ⟨w, []⟩)
  | .never v => .never v.world

/-- A response without its notes. -/
def Response.plain (r : Response (Noted W E)) : Response W where
  status := r.status
  headers := r.headers
  body := fun w => match r.body ⟨w, []⟩ with
    | (v, items) => (v.world, fun w => (items ⟨w, []⟩).plain)
  data := fun w => match r.data ⟨w, []⟩ with
    | (v, bytes) => (v.world, bytes)

/-- Writes nothing. -/
def Scribe.silent : Scribe W E := ⟨fun _ => [], fun _ => [], fun _ _ => [], fun _ => [], [], []⟩

/-- An interceptor that notes each request it changes. -/
def Interceptor.noted (note : List E) (i : Interceptor W) : Interceptor (Noted W E) where
  name := i.name
  apply := fun r v => match i.apply r.plain v.world with
    | (w, r') => (⟨w, v.notes ++ note⟩, r'.noted)

/-- A rule that writes nothing. -/
def Status.Rule.noted (r : Rule W) : Rule (Noted W E) where
  name := r.name
  claims := r.claims
  decode := fun key response v => match r.decode key response.plain v.world with
    | (w, e) => (⟨w, v.notes⟩, e)

/-- A mapper that writes nothing. -/
def Mapper.noted (m : Mapper W) : Mapper (Noted W E) where
  name := m.name
  map := fun r => (m.map r.plain).noted .silent

/-! ### Quiet streams and responses -/

/-- Reading the answer leaves the notes alone, `notes` being those of the answer. -/
def Step.Quiet : Step (Noted W E) α → List E → Prop
  | .done v, notes => v.notes = notes
  | .item v _ more, notes => v.notes = notes ∧ ∀ v', Quiet (more v') v'.notes
  | .never v, notes => v.notes = notes

/-- Reading the stream leaves the notes alone. -/
def Stream.Quiet (s : Stream (Noted W E) α) : Prop := ∀ v, (s v).Quiet v.notes

/-- Reading the response leaves the notes alone. -/
structure Response.Quiet (r : Response (Noted W E)) : Prop where
  body : ∀ v, (r.body v).1.notes = v.notes ∧ Stream.Quiet (r.body v).2
  data : ∀ v, (r.data v).1.notes = v.notes

/-- Decoding the failure of a quiet response leaves the notes alone. -/
def Status.Rule.Quiet (r : Rule (Noted W E)) : Prop :=
  ∀ key response v, response.Quiet → (r.decode key response v).1.notes = v.notes

/-- Telling the listener leaves the notes alone. -/
def Listener.Quiet [Ambient W] (l : Listener (Noted W E)) : Prop := ∀ n v, (l.notify n v).notes = v.notes

theorem Step.noted_quiet : ∀ (t : Step W α) (notes : List E), (t.noted (fun _ => []) [] [] notes).Quiet notes
  | .done _, notes => List.append_nil notes
  | .never _, notes => List.append_nil notes
  | .item _ _ more, notes => ⟨List.append_nil notes, fun v => noted_quiet (more v.world) v.notes⟩

theorem Stream.Quiet.tap_item {s : Stream (Noted W E) α} (hs : s.Quiet) {note : α → List E}
    {v v' : Noted W E} {x : α} {more : Stream (Noted W E) α}
    (h : s.tap (fun x v => v.write (note x)) v = .item v' x more) : v'.notes = v.notes ++ note x ∧
      ∃ s' : Stream (Noted W E) α, s'.Quiet ∧ more = s'.tap fun x v => v.write (note x) := by
  have hv := hs v
  rw [tap] at h
  cases hx : s v with
  | done w => rw [hx] at h; cases h
  | item w y rest =>
    rw [hx] at h hv
    cases h
    exact ⟨congrArg (· ++ note x) hv.1, rest, hv.2, rfl⟩
  | never w => rw [hx] at h; cases h

theorem Stream.Quiet.tap_done {s : Stream (Noted W E) α} (hs : s.Quiet) {f : α → Noted W E → Noted W E}
    {v v' : Noted W E} (h : s.tap f v = .done v') : v'.notes = v.notes := by
  have hv := hs v
  rw [tap] at h
  cases hx : s v with
  | done w => rw [hx] at h hv; cases h; exact hv
  | item w y rest => rw [hx] at h; cases h
  | never w => rw [hx] at h; cases h

theorem Stream.Quiet.tap_never {s : Stream (Noted W E) α} (hs : s.Quiet) {f : α → Noted W E → Noted W E}
    {v v' : Noted W E} (h : s.tap f v = .never v') : v'.notes = v.notes := by
  have hv := hs v
  rw [tap] at h
  cases hx : s v with
  | done w => rw [hx] at h; cases h
  | item w y rest => rw [hx] at h; cases h
  | never w => rw [hx] at h hv; cases h; exact hv

theorem Response.noted_quiet {s : Scribe W E} (hitem : s.item = fun _ => []) (hending : s.ending = [])
    (hstall : s.stall = []) (r : Response W) : (r.noted s).Quiet where
  body v := by
    refine ⟨rfl, fun v' => ?_⟩
    have hsilent := Step.noted_quiet ((r.body v.world).2 v'.world) v'.notes
    simpa only [noted, Stream.noted, hitem, hending, hstall] using hsilent
  data _ := rfl

theorem Status.Rule.noted_quiet (r : Rule W) : (r.noted (E := E)).Quiet := fun _ _ _ _ => rfl

/-! ### Being quiet as a limit on changes -/

/-- Nothing is noted. -/
def Noted.Silent (v v' : Noted W E) : Prop := v'.notes = v.notes

theorem Noted.silent_changes : Changes (Noted.Silent (W := W) (E := E)) := ⟨fun _ => rfl, fun h h' => h'.trans h⟩

theorem Step.quiet_iff : ∀ {t : Step (Noted W E) α} {v : Noted W E},
    t.Quiet v.notes ↔ t.Within (fun _ => Noted.Silent) Noted.Silent v
  | .done _, _ => .rfl
  | .never _, _ => .rfl
  | .item _ _ _, _ => and_congr .rfl (forall_congr' fun _ => quiet_iff)

theorem Response.quiet_iff {r : Response (Noted W E)} :
    r.Quiet ↔ r.Within (fun _ => Noted.Silent) Noted.Silent where
  mp h := ⟨fun v => ⟨(h.body v).1, fun u => Step.quiet_iff.mp ((h.body v).2 u)⟩, h.data⟩
  mpr h := ⟨fun v => ⟨(h.body v).1, fun u => Step.quiet_iff.mpr ((h.body v).2 u)⟩, h.data⟩

theorem Status.Rule.quiet_iff {rule : Rule (Noted W E)} :
    rule.Quiet ↔ rule.Within (fun _ => Noted.Silent) Noted.Silent where
  mp h key r v hr := h key r v (Response.quiet_iff.mpr hr)
  mpr h key r v hr := h key r v (Response.quiet_iff.mp hr)

theorem Mapper.noted_within (m : Mapper W) :
    (m.noted (E := E)).Within (fun _ => Noted.Silent) Noted.Silent :=
  fun _ _ => Response.quiet_iff.mp (Response.noted_quiet rfl rfl rfl _)

variable [Ambient W]

theorem Noted.ambient_silent : AmbientWithin (Noted.Silent (W := W) (E := E)) :=
  ⟨fun _ _ _ _ => rfl, fun _ _ => rfl⟩

theorem Status.Rule.orStandard_quiet {rules : List (Rule (Noted W E))} (h : ∀ r ∈ rules, r.Quiet) :
    (firstOf (rules ++ [standard])).Quiet :=
  quiet_iff.mpr (orStandard_within Noted.silent_changes fun r hr => quiet_iff.mp (h r hr))

theorem Status.handle_quiet {rule : Rule (Noted W E)} (h : rule.Quiet) (key : String)
    {r : Response (Noted W E)} (hr : r.Quiet) (v : Noted W E) :
    (handle rule key r v).1.notes = v.notes ∧ (handle rule key r v).2.Quiet := by
  obtain ⟨hnotes, hhandled⟩ := handle_within Noted.silent_changes Noted.ambient_silent (fun _ _ _ h => h)
    (Rule.quiet_iff.mp h) key (Response.quiet_iff.mp hr) v
  exact ⟨hnotes, Response.quiet_iff.mpr hhandled⟩

theorem Mapper.apply_notes (m : Mapper (Noted W E)) (r : Response (Noted W E)) (v : Noted W E) :
    (m.apply r v).1.notes = v.notes ∧ (m.apply r v).2 = m.map r := by
  rw [apply]
  split <;> exact ⟨rfl, rfl⟩

/-- Mappers that write nothing leave a quiet response to the one behind them. -/
theorem Mapper.applyAll_noted (last : Mapper (Noted W E)) : ∀ (ms : List (Mapper W))
    (r : Response (Noted W E)) (v : Noted W E), r.Quiet →
    (applyAll (ms.map Mapper.noted ++ [last]) r v).1.notes = v.notes ∧
      ∃ q : Response (Noted W E), q.Quiet ∧ (applyAll (ms.map Mapper.noted ++ [last]) r v).2 = last.map q
  | [], r, v, hr => by
    obtain ⟨hnotes, hmap⟩ := last.apply_notes r v
    exact ⟨hnotes, r, hr, hmap⟩
  | m :: ms, r, v, hr => by
    obtain ⟨hnotes, hmap⟩ := (m.noted (E := E)).apply_notes r v
    have hq : ((m.noted (E := E)).apply r v).2.Quiet := by
      rw [hmap]
      exact Response.noted_quiet rfl rfl rfl _
    obtain ⟨hnotes', q, hq', hlast⟩ := applyAll_noted last ms _ ((m.noted (E := E)).apply r v).1 hq
    exact ⟨hnotes'.trans hnotes, q, hq', hlast⟩

theorem Listener.noted_quiet (l : Listener W) : (l.noted fun _ => ([] : List E)).Quiet := by
  intro n v
  rw [Listener.notify_noted, List.append_nil]

/-- The log of calls is no note. -/
theorem Listener.CallLog.listener_quiet (c : CallLog) : (c.listener (W := Noted W E)).Quiet := by
  intro n v
  have hfold : ∀ (texts : List String) (tag : String) (v : Noted W E), (texts.foldl (fun v t =>
      Ambient.record c.logLevel "ReactiveLogger" ("[" ++ tag ++ "] " ++ t) v) v).notes = v.notes := by
    intro texts
    induction texts with
    | nil => exact fun _ _ => rfl
    | cons t texts ih => exact fun tag v => ih tag _
  exact hfold _ _ _

/-! ### Notes change nothing -/

omit [Ambient W]

theorem Step.plain_of_alike : ∀ {s : Step (Noted W E) α} {t : Step W α}, s.Alike Noted.Over t → s.plain = t
  | .done _, .done _, h => congrArg Step.done h
  | .item _ _ more, .item _ _ more', ⟨hv, rfl, hmore⟩ => by
    have hrest : (fun w => (more ⟨w, []⟩).plain) = more' := funext fun w => plain_of_alike (hmore _ w rfl)
    cases hv
    rw [plain, hrest]
  | .never _, .never _, h => congrArg Step.never h

/-- A response that is like one without notes is that one, up to its notes. -/
theorem Response.plain_of_alike {r : Response (Noted W E)} {r' : Response W} (h : r.Alike Noted.Over r') :
    r.plain = r' := by
  have hbody : ∀ w, r.plain.body w = r'.body w := by
    intro w
    obtain ⟨hagree, hitems⟩ := h.body ⟨w, []⟩ w rfl
    have hplain : (fun w' => ((r.body ⟨w, []⟩).2 ⟨w', []⟩).plain) = (r'.body w).2 :=
      funext fun w' => Step.plain_of_alike (hitems ⟨w', []⟩ w' rfl)
    exact Prod.ext hagree hplain
  have hdata : ∀ w, r.plain.data w = r'.data w := by
    intro w
    obtain ⟨hagree, hbytes⟩ := h.data ⟨w, []⟩ w rfl
    exact Prod.ext hagree hbytes
  obtain ⟨status, headers, body, data⟩ := r'
  have hfields : r.plain = ⟨r.status, r.headers, r.plain.body, r.plain.data⟩ := rfl
  rw [hfields, funext hbody, funext hdata, h.status, h.headers]

theorem Interceptor.noted_alike (note : List E) (i : Interceptor W) :
    (i.noted note).Alike Noted.Over Request.Over i where
  name := rfl
  apply r r' hr v w hv := by
    cases hr
    cases hv
    exact ⟨rfl, Request.plain_noted _⟩

theorem Status.Rule.noted_alike (rule : Rule W) : (rule.noted (E := E)).Alike Noted.Over rule where
  name := rfl
  claims := rfl
  decode key r r' hr v w hv := by
    cases hv
    rw [← Response.plain_of_alike hr]
    exact ⟨rfl, rfl⟩

theorem Mapper.noted_alike (m : Mapper W) : (m.noted (E := E)).Alike Noted.Over m where
  name := rfl
  map r r' hr := by
    rw [← Response.plain_of_alike hr]
    exact Response.noted_alike .silent _

theorem Listener.noted_alike [Ambient W] (note : Notice W → List E) (l : Listener W) :
    (l.noted note).WatchAlike Noted.Over Request.Over l where
  retried methodKey retry e := l.notify_alike note (.retryAttempt methodKey retry e)
  requested call r r' hr := by
    cases hr
    exact l.notify_alike note (.requestStarted call r)
  hooked call r r' hr := by
    cases hr
    have hhook : ∀ chunk w, ((l.noted note).notify (.requestBody call chunk) ⟨w, []⟩).world
        = l.notify (.requestBody call chunk) w :=
      fun chunk w => l.notify_alike note (.requestBody call chunk) ⟨w, []⟩ w rfl
    have hbody : ∀ b : Body (Noted W E),
        (b.tapFirst fun chunk => (l.noted note).notify (.requestBody call chunk)).plain
          = b.plain.tapFirst fun chunk => l.notify (.requestBody call chunk) := by
      intro b
      simp only [Body.tapFirst, Body.plain, List.map_append, List.map_cons, List.map_nil, hhook]
    simp only [Request.Over, watchRequest, Request.plain, Option.map_map, Function.comp_def, hbody]
  answered call status headers elapsed := l.notify_alike note (.responseReceived call status headers elapsed)
  element call j elapsed := l.notify_alike note (.bodyElement call j elapsed)
  failed call e elapsed := l.notify_alike note (.errorReceived call e elapsed)

end Courier
