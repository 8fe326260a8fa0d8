import Courier.Proofs.Listener.Unseen
import Courier.Proofs.Quiet

/-! Notes beside surroundings that agree.

    Parts that are alike stay so when they write notes: if each writes the same as the other, the notes
    agree as the surroundings do. So two calls whose parts are alike can be compared by what is written
    down in them. -/

namespace Courier

variable {V W E α : Type}

/-- Surroundings that agree, with the same notes. -/
def Noted.Alongside (agree : V → W → Prop) (v : Noted V E) (w : Noted W E) : Prop :=
  agree v.world w.world ∧ v.notes = w.notes

/-- What is written down is the same for requests that are alike. -/
structure Scribe.Alike (agree : V → W → Prop) (s : Scribe V E) (s' : Scribe W E) : Prop where
  sent : ∀ r r', Request.Alike agree r r' → s.sent r = s'.sent r'
  refused : s.refused = s'.refused
  arrived : s.arrived = s'.arrived
  item : s.item = s'.item
  ending : s.ending = s'.ending
  stall : s.stall = s'.stall

/-- A session that writes nothing. -/
def Retry.Session.silent : Session W → Session (Noted W E)
  | .closed => .closed
  | .await next => .await fun e => (next e).silent
  | .perform effect rest => .perform (Noted.act effect) fun v => (rest v.world).silent
  | .answer verdict rest => .answer verdict rest.silent

/-- A policy that writes nothing. -/
def Retry.Policy.silent (p : Policy W) : Policy (Noted W E) where
  name := p.name
  opening := fun v => match p.opening v.world with
    | (w, session) => (⟨w, v.notes⟩, session.silent)

variable {agree : V → W → Prop}

theorem Noted.act_alongside {f : V → V} {g : W → W} (h : Keeps agree f g) :
    Keeps (Alongside (E := E) agree) (act f) (act g) := fun v w hv => ⟨h v.world w.world hv.1, hv.2⟩

theorem Noted.effects_unseen [Ambient V] [Ambient W] (h : EffectsUnseen agree) :
    EffectsUnseen (Alongside (E := E) agree) where
  left level part message := act_alongside (h.left level part message)
  right level part message := act_alongside (h.right level part message)
  freshId v w hv := ⟨h.freshId v.world w.world hv.1, hv.2⟩
  pause d := act_alongside (h.pause d)
  calendar v w hv := h.calendar v.world w.world hv.1

/-! ### Requests -/

theorem TapsAlike.noted {taps : List (Bytes → V → V)} {taps' : List (Bytes → W → W)}
    (h : TapsAlike agree taps taps') : TapsAlike (Noted.Alongside (E := E) agree)
      (taps.map fun tap c => Noted.act (tap c)) (taps'.map fun tap c => Noted.act (tap c)) := by
  induction h with
  | nil => exact .nil
  | cons htap _ ih => exact .cons (fun c => Noted.act_alongside (htap c)) ih
  | aside htap _ ih => exact .aside (fun c => Noted.act_alongside (htap c)) ih

theorem TapsAlike.plain {taps : List (Bytes → Noted V E → Noted V E)}
    {taps' : List (Bytes → Noted W E → Noted W E)} (h : TapsAlike (Noted.Alongside agree) taps taps') :
    TapsAlike agree (taps.map fun tap c v => (tap c ⟨v, []⟩).world)
      (taps'.map fun tap c w => (tap c ⟨w, []⟩).world) := by
  induction h with
  | nil => exact .nil
  | cons htap _ ih => exact .cons (fun c v w hv => (htap c ⟨v, []⟩ ⟨w, []⟩ ⟨hv, rfl⟩).1) ih
  | aside htap _ ih => exact .aside (fun c v w hv => (htap c ⟨v, []⟩ ⟨w, []⟩ ⟨hv, rfl⟩).1) ih

theorem Request.Alike.noted {r : Request V} {r' : Request W} (h : r.Alike agree r') :
    (r.noted (E := E)).Alike (Noted.Alongside agree) r'.noted :=
  h.mapBody fun _ _ hb => ⟨hb.items, hb.taps.noted⟩

theorem Request.Alike.plain {r : Request (Noted V E)} {r' : Request (Noted W E)}
    (h : r.Alike (Noted.Alongside agree) r') : r.plain.Alike agree r'.plain :=
  h.mapBody fun _ _ hb => ⟨hb.items, hb.taps.plain⟩

/-! ### Responses -/

theorem Step.Alike.noted (item : α → List E) (ending stall : List E) : ∀ {s : Step V α} {t : Step W α},
    s.Alike agree t → ∀ notes,
      (s.noted item ending stall notes).Alike (Noted.Alongside agree) (t.noted item ending stall notes)
  | .done _, .done _, h, _ => ⟨h, rfl⟩
  | .never _, .never _, h, _ => ⟨h, rfl⟩
  | .item _ x more, .item _ _ more', ⟨hv, rfl, hmore⟩, notes => by
    refine ⟨⟨hv, rfl⟩, rfl, fun v w h => ?_⟩
    simp only [← h.2]
    exact (hmore v.world w.world h.1).noted item ending stall v.notes

theorem Step.Alike.plain : ∀ {s : Step (Noted V E) α} {t : Step (Noted W E) α},
    s.Alike (Noted.Alongside agree) t → s.plain.Alike agree t.plain
  | .done _, .done _, h => h.1
  | .never _, .never _, h => h.1
  | .item _ _ _, .item _ _ _, ⟨hv, rfl, hmore⟩ =>
    ⟨hv.1, rfl, fun v w h => (hmore ⟨v, []⟩ ⟨w, []⟩ ⟨h, rfl⟩).plain⟩

theorem Response.Alike.noted {s : Scribe V E} {s' : Scribe W E} (hs : s.Alike agree s') {r : Response V}
    {r' : Response W} (h : r.Alike agree r') : (r.noted s).Alike (Noted.Alongside agree) (r'.noted s') where
  status := h.status
  headers := h.headers
  body v w hv := by
    obtain ⟨hbody, hitems⟩ := h.body v.world w.world hv.1
    refine ⟨⟨hbody, hv.2⟩, fun v w hv => ?_⟩
    simp only [Response.noted, Stream.noted, hs.item, hs.ending, hs.stall, hv.2]
    exact (hitems v.world w.world hv.1).noted _ _ _ _
  data v w hv := by
    obtain ⟨hdata, hbytes⟩ := h.data v.world w.world hv.1
    exact ⟨⟨hdata, hv.2⟩, hbytes⟩

theorem Response.Alike.plain {r : Response (Noted V E)} {r' : Response (Noted W E)}
    (h : r.Alike (Noted.Alongside agree) r') : r.plain.Alike agree r'.plain where
  status := h.status
  headers := h.headers
  body v w hv := by
    obtain ⟨hbody, hitems⟩ := h.body ⟨v, []⟩ ⟨w, []⟩ ⟨hv, rfl⟩
    exact ⟨hbody.1, fun v w hv => (hitems ⟨v, []⟩ ⟨w, []⟩ ⟨hv, rfl⟩).plain⟩
  data v w hv := by
    obtain ⟨hdata, hbytes⟩ := h.data ⟨v, []⟩ ⟨w, []⟩ ⟨hv, rfl⟩
    exact ⟨hdata.1, hbytes⟩

/-! ### Parts -/

theorem Exchange.Alike.noted {s : Scribe V E} {s' : Scribe W E} (hs : s.Alike agree s') {x : Exchange V}
    {x' : Exchange W} (h : x.Alike agree (Request.Alike agree) x') :
    (x.noted s).Alike (Noted.Alongside agree) (Request.Alike (Noted.Alongside agree)) (x'.noted s') := by
  intro request request' hrequest v w hv
  have hresult := h _ _ hrequest.plain v.world w.world hv.1
  simp only [Exchange.noted, hs.sent _ _ hrequest.plain, hs.refused, hs.arrived, hs.stall, hv.2]
  generalize x.execute request.plain v.world = result at hresult ⊢
  generalize x'.execute request'.plain w.world = result' at hresult ⊢
  cases hresult with
  | refused e h => exact .refused e ⟨h, rfl⟩
  | never h => exact .never ⟨h, rfl⟩
  | arrived h hr => exact .arrived ⟨h, by rw [hr.status, hr.headers]⟩ (hr.noted hs)

theorem Interceptor.Alike.noted (note : List E) {i : Interceptor V} {i' : Interceptor W}
    (h : i.Alike agree (Request.Alike agree) i') :
    (i.noted note).Alike (Noted.Alongside agree) (Request.Alike (Noted.Alongside agree)) (i'.noted note) where
  name := h.name
  apply r r' hr v w hv := by
    obtain ⟨hagree, hchanged⟩ := h.apply _ _ hr.plain v.world w.world hv.1
    exact ⟨⟨hagree, congrArg (· ++ note) hv.2⟩, hchanged.noted⟩

theorem Status.Rule.Alike.noted {rule : Rule V} {rule' : Rule W} (h : rule.Alike agree rule') :
    (rule.noted (E := E)).Alike (Noted.Alongside agree) rule'.noted where
  name := h.name
  claims := h.claims
  decode key r r' hr v w hv := by
    obtain ⟨hagree, hsame⟩ := h.decode key _ _ hr.plain v.world w.world hv.1
    exact ⟨⟨hagree, hv.2⟩, hsame⟩

theorem Scribe.silent_alike : (Scribe.silent (E := E)).Alike agree .silent :=
  ⟨fun _ _ _ => rfl, rfl, rfl, rfl, rfl, rfl⟩

theorem Mapper.Alike.noted {m : Mapper V} {m' : Mapper W} (h : m.Alike agree m') :
    (m.noted (E := E)).Alike (Noted.Alongside agree) m'.noted where
  name := h.name
  map _ _ hr := (h.map _ _ hr.plain).noted Scribe.silent_alike

theorem Retry.Session.Alike.silent {s : Session V} {s' : Session W} (h : s.Alike agree s') :
    (s.silent (E := E)).Alike (Noted.Alongside agree) s'.silent := by
  induction h with
  | closed => exact .closed
  | await _ ih => exact .await ih
  | perform heffect _ ih =>
    exact .perform (Noted.act_alongside heffect) fun v w hv => ih v.world w.world hv.1
  | answer _ ih => exact .answer ih
  | aside heffect _ ih => exact .aside (Noted.act_alongside heffect) fun v => ih v.world

theorem Retry.Policy.Alike.silent {p : Policy V} {p' : Policy W} (h : p.Alike agree p') :
    (p.silent (E := E)).Alike (Noted.Alongside agree) p'.silent := by
  intro v w hv
  obtain ⟨hopened, hsession⟩ := h v.world w.world hv.1
  exact ⟨⟨hopened, hv.2⟩, hsession.silent⟩

theorem Retry.Session.silent_alike : ∀ s : Session W, Session.Alike (Noted.Over (E := E)) s.silent s
  | .closed => .closed
  | .await next => .await fun e => silent_alike (next e)
  | .perform effect rest => by
    refine .perform (fun v w h => congrArg effect h) fun v w h => ?_
    cases h
    exact silent_alike (rest v.world)
  | .answer _ rest => .answer (silent_alike rest)

theorem Retry.Policy.silent_alike (p : Policy W) : Policy.Alike (Noted.Over (E := E)) p.silent p := by
  intro v w h
  cases h
  exact ⟨rfl, Session.silent_alike _⟩

theorem Retry.Session.silent_within : ∀ s : Session W, (s.silent (E := E)).Within Noted.Silent
  | .closed => trivial
  | .await next => fun e => silent_within (next e)
  | .perform _ rest => ⟨fun _ => rfl, fun v => silent_within (rest v.world)⟩
  | .answer _ rest => silent_within rest

theorem Retry.Policy.silent_within (p : Policy W) : (p.silent (E := E)).Within Noted.Silent :=
  fun _ => ⟨rfl, Session.silent_within _⟩

theorem Use.Alike.noted : ∀ {use : Use V} {use' : Use W}, use.Alike agree use' →
    (use.noted (E := E)).Alike (Noted.Alongside agree) use'.noted
  | .leave, .leave, _ => trivial
  | .data, .data, _ => trivial
  | .body reader, .body reader', h => by
    intro seen v w hv
    have hread := h seen v.world w.world hv.1
    simp only [hv.2]
    cases hreader : reader seen v.world <;> cases hreader' : reader' seen w.world <;>
      rw [hreader, hreader'] at hread <;> cases hread
    · exact .none
    · next hagree => exact .some ⟨hagree, rfl⟩

theorem Listener.Unseen.noted {l : Listener V} (h : l.Unseen agree) :
    (l.noted fun _ => ([] : List E)).Unseen (Noted.Alongside agree) := by
  intro n v w hv
  exact ⟨h n.plain v.world w.world hv.1, (List.append_nil v.notes).trans hv.2⟩

end Courier
