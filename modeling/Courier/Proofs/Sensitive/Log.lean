import Courier.Proofs.Sensitive.Request

/-! Logs of calls that differ in what is sensitive.

    Two calls have different names and take different times; apart from these, what is written to the log
    of them is the same if they differ only in what is sensitive (`CallLog.lines_veiled`). A listener that
    writes to the log does not tell such calls apart, nor does the exchange that it watches
    (`exchange_veiled`). -/

namespace Courier

variable {V W : Type}

/-! ### Lines of the log -/

/-- A line of the log. -/
structure LogLine where
  level : Logging.Level
  part : String
  text : String

/-- The same text but for the name of the call in its tag, and for the time at its end. -/
inductive SameButCall : String → String → Prop where
  | same (text : String) : SameButCall text text
  | tagged {call call' : CallContext} (h : call.methodKey = call'.methodKey) (text : String) :
    SameButCall ("[" ++ Listener.CallLog.tag call ++ "] " ++ text) ("[" ++ Listener.CallLog.tag call' ++ "] " ++ text)
  | timed {call call' : CallContext} (h : call.methodKey = call'.methodKey) (text : String) (d d' : Duration) :
    SameButCall ("[" ++ Listener.CallLog.tag call ++ "] " ++ (text ++ Listener.CallLog.millis d))
      ("[" ++ Listener.CallLog.tag call' ++ "] " ++ (text ++ Listener.CallLog.millis d'))

/-- Lines of the same level and part, with texts that are the same but for the call. -/
def LogLine.Alike (l l' : LogLine) : Prop := l.level = l'.level ∧ l.part = l'.part ∧ SameButCall l.text l'.text

/-- Line for line the same but for the calls. -/
def LogsAlike : List LogLine → List LogLine → Prop := List.Forall₂ LogLine.Alike

/-! ### Notices -/

/-- The same call of a method but for its name and the time of its start. -/
structure CallContext.Alike (call call' : CallContext) : Prop where
  methodKey : call.methodKey = call'.methodKey
  method : call.method = call'.method
  uri : call.uri = call'.uri

/-- The same notices of calls that differ in what is sensitive, however long these take. -/
inductive Notice.Veiled : Notice V → Notice W → Prop where
  | requestStarted {call call' r r'} (hcall : CallContext.Alike call call') (hr : r.headers.Veiled r'.headers) :
    Veiled (.requestStarted call r) (.requestStarted call' r')
  | requestBody {call call'} (hcall : CallContext.Alike call call') (chunk : Bytes) :
    Veiled (.requestBody call chunk) (.requestBody call' chunk)
  | responseReceived {call call' hs hs'} (hcall : CallContext.Alike call call') (status : Nat)
    (hhs : Http.Headers.Veiled hs hs') (d d' : Duration) :
    Veiled (.responseReceived call status hs d) (.responseReceived call' status hs' d')
  | bodyElement {call call'} (hcall : CallContext.Alike call call') (j : Json) (d d' : Duration) :
    Veiled (.bodyElement call j d) (.bodyElement call' j d')
  | errorReceived {call call'} (hcall : CallContext.Alike call call') (e : Failure) (d d' : Duration) :
    Veiled (.errorReceived call e d) (.errorReceived call' e d')
  | retryAttempt (methodKey : String) (retry : Nat) (e : Failure) :
    Veiled (.retryAttempt methodKey retry e) (.retryAttempt methodKey retry e)

namespace Listener

/-- A sensitive value is masked, so the lines of the header fields are the same. -/
theorem CallLog.headerLines_veiled {hs hs' : Http.Headers} (h : hs.Veiled hs') :
    (Http.Headers.fields hs).map headerLine = (Http.Headers.fields hs').map headerLine := by
  induction h with
  | nil => rfl
  | cons hfield _ ih =>
    next field field' _ _ _ =>
    obtain ⟨n, vs⟩ := field
    obtain ⟨n', vs'⟩ := field'
    obtain ⟨rfl, hvs⟩ : n = n' ∧ List.Forall₂ Http.HeaderValue.Veiled vs vs' := hfield
    have hvalue : ∀ v v' : Http.HeaderValue, v.Veiled v' → headerLine (n, v) = headerLine (n, v') := by
      rintro v v' (rfl | ⟨hv, hv'⟩)
      · rfl
      · simp only [headerLine]
        rw [if_pos hv, if_pos hv']
    have hvalues : (vs.map fun v => (n, v)).map headerLine = (vs'.map fun v => (n, v)).map headerLine := by
      induction hvs with
      | nil => rfl
      | cons hv _ ih => rw [List.map_cons, List.map_cons, List.map_cons, List.map_cons, hvalue _ _ hv, ih]
    simp only [Http.Headers.fields, List.flatMap_cons, List.map_append, hvalues] at ih ⊢
    rw [ih]

/-- The same with an arrow in front of each line. -/
theorem CallLog.arrowLines_veiled {hs hs' : Http.Headers} (h : hs.Veiled hs') (arrow : String) :
    (Http.Headers.fields hs).map (fun f => arrow ++ headerLine f)
      = (Http.Headers.fields hs').map fun f => arrow ++ headerLine f := by
  have hlines := congrArg (List.map (arrow ++ ·)) (headerLines_veiled h)
  rwa [List.map_map, List.map_map] at hlines

/-- Line for line, notices that differ in what is sensitive make the same texts but for the call. -/
theorem CallLog.lines_veiled (c : CallLog) {n : Notice V} {n' : Notice W} (h : n.Veiled n') :
    List.Forall₂ (fun t t' => SameButCall ("[" ++ (c.lines n).1 ++ "] " ++ t) ("[" ++ (c.lines n').1 ++ "] " ++ t'))
      (c.lines n).2 (c.lines n').2 := by
  have htagged : ∀ {call call' : CallContext}, call.Alike call' → ∀ texts : List String, List.Forall₂
      (fun t t' => SameButCall ("[" ++ tag call ++ "] " ++ t) ("[" ++ tag call' ++ "] " ++ t')) texts texts :=
    fun hcall texts => List.forall₂_same.mpr fun t _ => .tagged hcall.methodKey t
  cases h with
  | requestStarted hcall hr =>
    simp only [lines, hcall.method, hcall.uri, arrowLines_veiled hr]
    exact htagged hcall _
  | requestBody hcall chunk => exact htagged hcall _
  | responseReceived hcall status hhs d d' =>
    simp only [lines, arrowLines_veiled hhs]
    exact .cons (.timed hcall.methodKey _ d d') (htagged hcall _)
  | bodyElement hcall j d d' =>
    simp only [lines]
    split
    · exact .cons (.timed hcall.methodKey _ d d') .nil
    · exact .nil
  | errorReceived hcall e d d' => exact .cons (.timed hcall.methodKey _ d d') .nil
  | retryAttempt methodKey retry e => exact .cons (.same _) .nil

end Listener

/-! ### Calls that are watched -/

/-- What the parts of a call need of their surroundings is alike; calls may get other names and take other
    times. -/
structure EffectsVeiled [Ambient V] [Ambient W] (agree : V → W → Prop) : Prop where
  record : ∀ level part text text', SameButCall text text' →
    Keeps agree (Ambient.record level part text) (Ambient.record level part text')
  pause : ∀ d, Keeps agree (Ambient.pause d) (Ambient.pause d)
  calendar : ∀ v w, agree v w → Ambient.calendar v = Ambient.calendar w
  freshId : Keeps agree (fun v => (Ambient.freshId v).1) (fun w => (Ambient.freshId w).1)

variable [Ambient V] [Ambient W] {agree : V → W → Prop}

theorem EffectsVeiled.effects (h : EffectsVeiled agree) : EffectsAlike agree :=
  ⟨fun level part text => h.record level part text text (.same text), h.pause, h.calendar⟩

namespace Listener

/-- Listeners that do not tell calls apart that differ in what is sensitive. -/
def Veiled (agree : V → W → Prop) (l : Listener V) (l' : Listener W) : Prop :=
  ∀ n n', Notice.Veiled n n' → Keeps agree (l.notify n) (l'.notify n')

theorem CallLog.listener_veiled (heffects : EffectsVeiled agree) (c : CallLog) :
    Veiled agree (c.listener (W := V)) (c.listener (W := W)) := by
  intro n n' hn v w hv
  have hlines := c.lines_veiled hn
  have hfold : ∀ {tag tag' : String} {texts texts' : List String}, List.Forall₂
      (fun t t' => SameButCall ("[" ++ tag ++ "] " ++ t) ("[" ++ tag' ++ "] " ++ t')) texts texts' → ∀ v w, agree v w →
      agree (texts.foldl (fun v t => Ambient.record c.logLevel "ReactiveLogger" ("[" ++ tag ++ "] " ++ t) v) v)
        (texts'.foldl (fun w t => Ambient.record c.logLevel "ReactiveLogger" ("[" ++ tag' ++ "] " ++ t) w) w) := by
    intro tag tag' texts texts' h
    induction h with
    | nil => exact fun _ _ hv => hv
    | cons htext _ ih => exact fun v w hv => ih _ _ (heffects.record _ _ _ _ htext v w hv)
  exact hfold hlines v w hv

variable {l : Listener V} {l' : Listener W} {call call' : CallContext}

theorem start_veiled (heffects : EffectsVeiled agree) (methodKey : String) {r : Request V} {r' : Request W}
    (hr : r.Veiled agree r') {v : V} {w : W} (hv : agree v w) :
    agree (CallContext.start methodKey r v).1 (CallContext.start methodKey r' w).1 ∧
      (CallContext.start methodKey r v).2.Alike (CallContext.start methodKey r' w).2 :=
  ⟨heffects.freshId v w hv, rfl, hr.method, congrArg Url.text hr.uri⟩

/-- Both listeners see the chunks of the bodies. -/
theorem Veiled.watchRequest (hl : Veiled agree l l') (hcall : call.Alike call') {r : Request V} {r' : Request W}
    (h : r.Veiled agree r') : (l.watchRequest call r).Veiled agree (l'.watchRequest call' r') := by
  have hhooked : ∀ b b', Body.Alike agree b b' →
      (b.tapFirst fun chunk => l.notify (.requestBody call chunk)).Alike agree
        (b'.tapFirst fun chunk => l'.notify (.requestBody call' chunk)) :=
    fun b b' hb => ⟨hb.items, hb.taps.snoc fun chunk => hl _ _ (.requestBody hcall chunk)⟩
  refine ⟨h.method, h.uri, h.headers, ?_⟩
  have hbody := h.body
  simp only [Listener.watchRequest]
  generalize r.body = b at hbody ⊢
  generalize r'.body = b' at hbody ⊢
  cases hbody with
  | none => exact .none
  | some hb => exact .some (hhooked _ _ hb)

theorem Veiled.tellItem (hl : Veiled agree l l') (hcall : call.Alike call') :
    ∀ item, Keeps agree (l.tellItem call item) (l'.tellItem call' item)
  | .ok j => fun v w hv => hl _ _ (.bodyElement hcall j _ _) v w hv
  | .error e => fun v w hv => hl _ _ (.errorReceived hcall e _ _) v w hv

/-- Watching calls that differ in what is sensitive keeps what agrees, whatever names they get. -/
theorem exchange_veiled (heffects : EffectsVeiled agree) (hl : Veiled agree l l') (methodKey : String)
    {x : Exchange V} {x' : Exchange W} (hx : x.Alike agree (Request.Veiled agree) x') :
    (l.exchange methodKey x).Alike agree (Request.Veiled agree) (l'.exchange methodKey x') := by
  intro request request' hrequest v w hv
  obtain ⟨hstarted, hcall⟩ := start_veiled heffects methodKey hrequest hv
  rw [exchange_execute, exchange_execute]
  generalize CallContext.start methodKey request v = start at hstarted hcall
  generalize CallContext.start methodKey request' w = start' at hstarted hcall
  obtain ⟨v₁, call⟩ := start
  obtain ⟨w₁, call'⟩ := start'
  have htold := hl _ _ (.requestStarted hcall hrequest.headers) v₁ w₁ hstarted
  have hresult := hx _ _ (hl.watchRequest hcall hrequest) _ _ htold
  simp only
  generalize x.execute (l.watchRequest call request) (l.notify (.requestStarted call request) v₁) = result
    at hresult
  generalize x'.execute (l'.watchRequest call' request') (l'.notify (.requestStarted call' request') w₁) = result'
    at hresult
  cases hresult with
  | refused e h => exact .refused e (hl _ _ (.errorReceived hcall e _ _) _ _ h)
  | never h => exact .never h
  | arrived h hr =>
    simp only [← hr.status, ← hr.headers]
    refine .arrived (hl _ _ (.responseReceived hcall _ (.refl _) _ _) _ _ h) ⟨hr.status, hr.headers, ?_, hr.data⟩
    intro v w hv
    obtain ⟨hbody, hitems⟩ := hr.body v w hv
    exact ⟨hbody, hitems.tap (hl.tellItem hcall)⟩

end Listener
end Courier
