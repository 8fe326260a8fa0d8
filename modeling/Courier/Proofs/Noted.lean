import Courier.Listener.Basic
import Courier.Proofs.Alike.Basic

/-! Surroundings with notes.

    To say what the parts of a call do and in which order, each part writes down what it does. The notes
    stand beside the surroundings: a part does in surroundings with notes what it does without them, and
    no part can read a note. So the notes change nothing: parts with notes are like the parts without. -/

namespace Courier

variable {W E α : Type}

/-- Surroundings, and what has been written down so far. -/
structure Noted (W E : Type) where
  world : W
  notes : List E

namespace Noted

/-- The same surroundings with more notes. -/
def write (v : Noted W E) (es : List E) : Noted W E := { v with notes := v.notes ++ es }

/-- An effect on the surroundings alone. -/
def act (f : W → W) (v : Noted W E) : Noted W E := { v with world := f v.world }

instance [Ambient W] : Ambient (Noted W E) where
  record level part message := act (Ambient.record level part message)
  pause d := act (Ambient.pause d)
  elapsed v := Ambient.elapsed v.world
  calendar v := Ambient.calendar v.world
  freshId v := match Ambient.freshId v.world with
    | (w, id) => ({ v with world := w }, id)

end Noted

/-- A stream that notes each item, its end, and that nothing will come. -/
def Step.noted (item : α → List E) (ending stall : List E) : Step W α → List E → Step (Noted W E) α
  | .done w, notes => .done ⟨w, notes ++ ending⟩
  | .item w x more, notes =>
    .item ⟨w, notes ++ item x⟩ x fun v => noted item ending stall (more v.world) v.notes
  | .never w, notes => .never ⟨w, notes ++ stall⟩

/-- A stream that notes each item, its end, and that nothing will come. -/
def Stream.noted (item : α → List E) (ending stall : List E) (s : Stream W α) : Stream (Noted W E) α :=
  fun v => (s v.world).noted item ending stall v.notes

section Notes

variable {item : α → List E} {ending stall : List E} {s : Stream W α} {v v' : Noted W E}

theorem Stream.notes_of_item {x : α} {more : Stream (Noted W E) α}
    (h : s.noted item ending stall v = .item v' x more) :
    v'.notes = v.notes ++ item x ∧ ∃ rest : Stream W α, more = rest.noted item ending stall := by
  rw [noted] at h
  cases hs : s v.world with
  | done w => rw [hs] at h; cases h
  | item w y rest =>
    rw [hs] at h
    cases h
    exact ⟨rfl, rest, rfl⟩
  | never w => rw [hs] at h; cases h

theorem Stream.notes_of_done (h : s.noted item ending stall v = .done v') : v'.notes = v.notes ++ ending := by
  rw [noted] at h
  cases hs : s v.world with
  | done w => rw [hs] at h; cases h; rfl
  | item w y rest => rw [hs] at h; cases h
  | never w => rw [hs] at h; cases h

theorem Stream.notes_of_never (h : s.noted item ending stall v = .never v') : v'.notes = v.notes ++ stall := by
  rw [noted] at h
  cases hs : s v.world with
  | done w => rw [hs] at h; cases h
  | item w y rest => rw [hs] at h; cases h
  | never w => rw [hs] at h; cases h; rfl

end Notes

/-! ### Requests and notices -/

/-- A body without the notes of its hooks. -/
def Body.plain (b : Body (Noted W E)) : Body W :=
  ⟨b.items, b.taps.map fun tap c w => (tap c ⟨w, []⟩).world⟩

/-- A body whose hooks write nothing. -/
def Body.noted (b : Body W) : Body (Noted W E) := ⟨b.items, b.taps.map fun tap c => Noted.act (tap c)⟩

theorem Body.plain_noted (b : Body W) : (b.noted (E := E)).plain = b := by
  simp [plain, noted, Noted.act, Function.comp_def]

/-- A request without the notes of its hooks. -/
def Request.plain (r : Request (Noted W E)) : Request W := { r with body := r.body.map Body.plain }

/-- A request whose hooks write nothing. -/
def Request.noted (r : Request W) : Request (Noted W E) := { r with body := r.body.map Body.noted }

theorem Request.plain_noted (r : Request W) : (r.noted (E := E)).plain = r := by
  simp [plain, noted, Function.comp_def, Body.plain_noted]

/-- A notice without the notes of its request. -/
def Notice.plain : Notice (Noted W E) → Notice W
  | .requestStarted call request => .requestStarted call request.plain
  | .requestBody call chunk => .requestBody call chunk
  | .responseReceived call status headers elapsed => .responseReceived call status headers elapsed
  | .bodyElement call element elapsed => .bodyElement call element elapsed
  | .errorReceived call failure elapsed => .errorReceived call failure elapsed
  | .retryAttempt methodKey retry failure => .retryAttempt methodKey retry failure

/-! ### Parts of a call -/

/-- What an exchange writes down. -/
structure Scribe (W E : Type) where
  sent : Request W → List E
  refused : Failure → List E
  arrived : Nat → Http.Headers → List E
  item : Except Failure Json → List E
  ending : List E
  stall : List E

/-- A response that notes what is read of its elements. -/
def Response.noted (s : Scribe W E) (r : Response W) : Response (Noted W E) where
  status := r.status
  headers := r.headers
  body := fun v => match r.body v.world with
    | (w, items) => (⟨w, v.notes⟩, items.noted s.item s.ending s.stall)
  data := fun v => match r.data v.world with
    | (w, bytes) => (⟨w, v.notes⟩, bytes)

/-- An exchange that notes what it is asked for and what comes of it. -/
def Exchange.noted (s : Scribe W E) (x : Exchange W) : Exchange (Noted W E) where
  shown := x.shown
  execute := fun request v => match x.execute request.plain v.world with
    | (w, .error e) => (⟨w, v.notes ++ (s.sent request.plain ++ s.refused e)⟩, .error e)
    | (w, .ok r) => (⟨w, v.notes ++ (s.sent request.plain ++ s.arrived r.status r.headers)⟩, .ok (r.noted s))
    | (w, .never) => (⟨w, v.notes ++ (s.sent request.plain ++ s.stall)⟩, .never)

theorem Exchange.notes_of_error {s : Scribe W E} {x : Exchange W} {request : Request (Noted W E)}
    {v v' : Noted W E} {e : Failure} (h : (x.noted s).execute request v = (v', .error e)) :
    v'.notes = v.notes ++ (s.sent request.plain ++ s.refused e) := by
  simp only [noted] at h
  rcases hx : x.execute request.plain v.world with ⟨w, e' | r | _⟩ <;> rw [hx] at h <;> cases h
  rfl

theorem Exchange.notes_of_never {s : Scribe W E} {x : Exchange W} {request : Request (Noted W E)}
    {v v' : Noted W E} (h : (x.noted s).execute request v = (v', .never)) :
    v'.notes = v.notes ++ (s.sent request.plain ++ s.stall) := by
  simp only [noted] at h
  rcases hx : x.execute request.plain v.world with ⟨w, e | r | _⟩ <;> rw [hx] at h <;> cases h
  rfl

theorem Exchange.notes_of_ok {s : Scribe W E} {x : Exchange W} {request : Request (Noted W E)}
    {v v' : Noted W E} {r : Response (Noted W E)} (h : (x.noted s).execute request v = (v', .ok r)) :
    v'.notes = v.notes ++ (s.sent request.plain ++ s.arrived r.status r.headers) ∧
      ∃ r', r = Response.noted s r' := by
  simp only [noted] at h
  rcases hx : x.execute request.plain v.world with ⟨w, e' | r' | _⟩ <;> rw [hx] at h <;> cases h
  exact ⟨rfl, r', rfl⟩

theorem Response.notes_of_body {s : Scribe W E} {r : Response W} {v v' : Noted W E}
    {items : Stream (Noted W E) (Except Failure Json)} (h : (r.noted s).body v = (v', items)) :
    v'.notes = v.notes ∧ ∃ items', items = Stream.noted s.item s.ending s.stall items' := by
  simp only [noted] at h
  cases h
  exact ⟨rfl, _, rfl⟩

/-- A listener that notes what it hears of. -/
def Listener.noted (note : Notice W → List E) (l : Listener W) : Listener (Noted W E) where
  hear := fun n v => match l.hear n.plain v.world with
    | (w, crashed) => (⟨w, v.notes ++ note n.plain⟩, crashed)

/-- A caller that acts on the surroundings and writes nothing. -/
def Use.noted : Use W → Use (Noted W E)
  | .leave => .leave
  | .body reader => .body fun seen v => (reader seen v.world).map fun w => ⟨w, v.notes⟩
  | .data => .data

theorem Use.noted_keeps : ∀ use : Use W, (use.noted (E := E)).Keeps fun v v' => v'.notes = v.notes
  | .leave => trivial
  | .body reader => by
    intro seen v v' h
    obtain ⟨w, -, rfl⟩ := Option.map_eq_some_iff.mp h
    rfl
  | .data => fun _ => rfl

variable [Ambient W]

/-- To tell a listener is to note what it hears. -/
theorem Listener.notify_noted (note : Notice W → List E) (l : Listener W) (n : Notice (Noted W E))
    (v : Noted W E) : ((l.noted note).notify n v).notes = v.notes ++ note n.plain := by
  rcases hl : l.hear n.plain v.world with ⟨w, crashed⟩
  have hhear : (l.noted note).hear n v = (⟨w, v.notes ++ note n.plain⟩, crashed) := by
    simp only [noted, hl]
  rw [notify, hhear]
  cases crashed <;> rfl

/-! ### Notes change nothing -/

omit [Ambient W]

/-- Surroundings with notes agree with the same surroundings without. -/
def Noted.Over (v : Noted W E) (w : W) : Prop := v.world = w

/-- A request whose hooks may write notes, and the same request without these. -/
def Request.Over (r : Request (Noted W E)) (r' : Request W) : Prop := r.plain = r'

theorem Noted.ambient_alike [Ambient W] : AmbientAlike (Noted.Over (W := W) (E := E)) where
  record _ _ _ v w h := by cases h; rfl
  pause _ v w h := by cases h; rfl
  elapsed v w h := by cases h; rfl
  calendar v w h := by cases h; rfl
  freshId v w h := by cases h; exact ⟨rfl, rfl⟩

theorem Step.noted_alike (item : α → List E) (ending stall : List E) : ∀ (t : Step W α) (notes : List E),
    (t.noted item ending stall notes).Alike Noted.Over t
  | .done _, _ => rfl
  | .item _ _ more, _ => ⟨rfl, rfl, fun v w h => by cases h; exact noted_alike item ending stall (more v.world) _⟩
  | .never _, _ => rfl

theorem Stream.noted_alike (item : α → List E) (ending stall : List E) (s : Stream W α) :
    (s.noted item ending stall).Alike Noted.Over s := by
  intro v w h
  cases h
  exact Step.noted_alike item ending stall (s v.world) v.notes

theorem Response.noted_alike (s : Scribe W E) (r : Response W) : (r.noted s).Alike Noted.Over r where
  status := rfl
  headers := rfl
  body v w h := by cases h; exact ⟨rfl, Stream.noted_alike _ _ _ _⟩
  data v w h := by cases h; exact ⟨rfl, rfl⟩

theorem Exchange.noted_alike (s : Scribe W E) (x : Exchange W) :
    (x.noted s).Alike Noted.Over Request.Over x := by
  intro request request' hrequest v w h
  cases hrequest
  cases h
  simp only [noted]
  rcases x.execute request.plain v.world with ⟨w, e | r | _⟩
  · exact .refused e rfl
  · exact .arrived rfl (r.noted_alike s)
  · exact .never rfl

theorem Use.noted_alike : ∀ use : Use W, (use.noted (E := E)).Alike Noted.Over use
  | .leave => trivial
  | .data => trivial
  | .body reader => by
    intro seen v w h
    cases h
    simp only
    cases reader seen v.world with
    | none => exact .none
    | some w => exact .some rfl

theorem Listener.notify_alike [Ambient W] (note : Notice W → List E) (l : Listener W)
    (n : Notice (Noted W E)) : Keeps Noted.Over ((l.noted note).notify n) (l.notify n.plain) := by
  intro v w h
  cases h
  have hname : n.plain.name = n.name := by cases n <;> rfl
  rcases hl : l.hear n.plain v.world with ⟨w, crashed⟩
  have hhear : (l.noted note).hear n v = (⟨w, v.notes ++ note n.plain⟩, crashed) := by
    simp only [noted, hl]
  rw [notify, notify, hhear, hl, hname]
  cases crashed <;> rfl

end Courier
