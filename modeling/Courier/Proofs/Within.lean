import Courier.Proofs.Alike.Parts

/-! Parts that change the surroundings only in certain ways.

    What a part does to the surroundings may be limited to some changes, that can be made one after the
    other. A part keeps within them if all that it does itself is such a change, as long as the parts it
    deals with keep within them. Attempts of a client do if its parts do (`attempt_within`). -/

namespace Courier

variable {W α ε : Type}

/-- Changes that may be made one after the other, or not at all. -/
structure Changes (may : W → W → Prop) : Prop where
  refl : ∀ w, may w w
  trans : ∀ {u v w}, may u v → may v w → may u w

/-! ### Parts -/

section Parts

variable (item : α → W → W → Prop) (answer : Except Failure Json → W → W → Prop) (may : W → W → Prop)

/-- The stream that was asked in `w` has changed that as `item` says of what it has handed out, and within
    `may` if it has ended or never goes on. -/
def Step.Within : Step W α → W → Prop
  | .done w', w => may w w'
  | .never w', w => may w w'
  | .item w' x more, w => item x w w' ∧ ∀ v, Within (more v) v

/-- Whenever the stream is asked, it changes the surroundings as `item` or `may` say. -/
def Stream.Within (s : Stream W α) : Prop := ∀ w, (s w).Within item may w

/-- Whoever reads the response changes the surroundings only so far. -/
structure Response.Within (r : Response W) : Prop where
  body : ∀ w, may w (r.body w).1 ∧ (r.body w).2.Within answer may
  data : ∀ w, may w (r.data w).1

/-- The hooks on the body of the request keep within the changes. -/
def Request.Within (r : Request W) : Prop := ∀ b ∈ r.body, ∀ tap ∈ b.taps, ∀ c w, may w (tap c w)

/-- Running a request whose hooks keep within the changes does so, and reading the response. -/
def Exchange.Within (x : Exchange W) : Prop := ∀ request, request.Within may → ∀ w,
  may w (x.execute request w).1 ∧ ∀ r, (x.execute request w).2 = .ok r → r.Within answer may

/-- Changing a request keeps within the changes, and so do the hooks of the new one. -/
def Interceptor.Within (i : Interceptor W) : Prop := ∀ request, request.Within may → ∀ w,
  may w (i.apply request w).1 ∧ (i.apply request w).2.Within may

/-- Decoding a failure keeps within the changes if reading the response does. -/
def Status.Rule.Within (rule : Rule W) : Prop :=
  ∀ key r w, Response.Within answer may r → may w (rule.decode key r w).1

/-- A response that keeps within the changes is changed into such a one. -/
def Mapper.Within (m : Mapper W) : Prop := ∀ r, r.Within answer may → (m.map r).Within answer may

/-- Whatever is said in the conversation, the policy keeps within the changes. -/
def Retry.Session.Within : Session W → Prop
  | .closed => True
  | .await next => ∀ e, Within (next e)
  | .perform effect rest => (∀ w, may w (effect w)) ∧ ∀ w, Within (rest w)
  | .answer _ rest => Within rest

/-- Each conversation keeps within the changes, and opening it. -/
def Retry.Policy.Within (p : Policy W) : Prop :=
  ∀ w, may w (p.opening w).1 ∧ (p.opening w).2.Within may

/-- The log and the clock keep within the changes. -/
structure AmbientWithin [Ambient W] : Prop where
  record : ∀ level part message w, may w (Ambient.record level part message w)
  pause : ∀ d w, may w (Ambient.pause d w)

end Parts

variable {item : α → W → W → Prop} {answer : Except Failure Json → W → W → Prop} {may way : W → W → Prop}

/-! ### Reading -/

theorem Step.Within.mono {item' : α → W → W → Prop} (hitem : ∀ x w w', item x w w' → item' x w w')
    (hmay : ∀ w w', may w w' → way w w') : ∀ {t : Step W α} {w : W}, t.Within item may w →
      t.Within item' way w
  | .done _, _, h => hmay _ _ h
  | .never _, _, h => hmay _ _ h
  | .item _ _ _, _, ⟨h, hmore⟩ => ⟨hitem _ _ _ h, fun v => (hmore v).mono hitem hmay⟩

theorem Step.Within.readBy (hway : Changes way) {r : Reader W α}
    (hr : ∀ seen w w', r seen w = some w' → way w w') : ∀ {t : Step W α} {w : W},
    t.Within (fun _ => way) way w → ∀ seen, way w (t.readBy r seen).1
  | .done _, _, h, _ => h
  | .never _, _, h, _ => h
  | .item w' x more, _, ⟨h, hmore⟩, seen => by
    rw [Step.readBy]
    cases hv : r (seen ++ [x]) w' with
    | none => exact h
    | some v => exact hway.trans h (hway.trans (hr _ _ _ hv) ((hmore v).readBy hway hr _))

theorem Response.Within.mono {answer' : Except Failure Json → W → W → Prop}
    (hanswer : ∀ x w w', answer x w w' → answer' x w w') (hmay : ∀ w w', may w w' → way w w')
    {r : Response W} (h : r.Within answer may) : r.Within answer' way where
  body w := ⟨hmay _ _ (h.body w).1, fun v => ((h.body w).2 v).mono hanswer hmay⟩
  data w := hmay _ _ (h.data w)

/-- Whatever a caller does that keeps within the changes itself, reading a response does. -/
theorem Response.Within.serve (hway : Changes way) {r : Response W} (h : r.Within (fun _ => way) way) :
    ∀ {use : Use W}, use.Keeps way → ∀ w, way w (r.serve use w).1
  | .leave, _, w => hway.refl w
  | .body reader, hreader, w => by
    obtain ⟨hbody, hitems⟩ := h.body w
    simp only [Response.serve, Stream.readBy]
    cases hv : reader [] (r.body w).1 with
    | none => exact hbody
    | some v => exact hway.trans hbody (hway.trans (hreader _ _ _ hv) ((hitems v).readBy hway hreader []))
  | .data, _, w => h.data w

theorem Step.Within.prepend (hway : Changes way) {w w' : W} (h : way w w') : ∀ {t : Step W α},
    t.Within (fun _ => way) way w' → t.Within (fun _ => way) way w
  | .done _, hend => hway.trans h hend
  | .never _, hend => hway.trans h hend
  | .item _ _ _, ⟨hitem, hmore⟩ => ⟨hway.trans h hitem, hmore⟩

/-! ### Bodies -/

theorem Stream.ofList_within (hway : Changes way) : ∀ items : List α,
    (Stream.ofList items : Stream W α).Within (fun _ => way) way
  | [] => hway.refl
  | _ :: items => fun w => ⟨hway.refl w, ofList_within hway items⟩

/-- Hooks one after the other. -/
theorem taps_within (hway : Changes way) (chunk : Bytes) : ∀ {taps : List (Bytes → W → W)},
    (∀ tap ∈ taps, ∀ c w, way w (tap c w)) → ∀ w, way w (taps.foldl (fun w tap => tap chunk w) w)
  | [], _, w => hway.refl w
  | _ :: _, h, w => by
    obtain ⟨htap, htaps⟩ := List.forall_mem_cons.mp h
    exact hway.trans (htap chunk w) (taps_within hway chunk htaps _)

/-- A subscription does to the surroundings what the hooks do. -/
theorem Body.subscribe_within (hway : Changes way) {b : Body W} (h : ∀ tap ∈ b.taps, ∀ c w, way w (tap c w)) :
    b.subscribe.Within (fun _ => way) way := by
  have hemit : ∀ items, Stream.Within (fun _ => way) way (Body.emit b.taps items) := by
    intro items
    induction items with
    | nil => exact hway.refl
    | cons item items ih =>
      cases item with
      | error e => exact fun w => ⟨hway.refl w, ih⟩
      | ok chunk => exact fun w => ⟨taps_within hway chunk h w, Stream.ofList_within hway items⟩
  exact hemit b.items

namespace Codec

theorem emitLines_within (hway : Changes way) {next : Stream W (Except Failure Json)}
    (hnext : next.Within (fun _ => way) way) (ls : List Bytes) :
    (emitLines next ls).Within (fun _ => way) way := by
  induction ls with
  | nil => exact hnext
  | cons l ls ih =>
    rw [emitLines]
    split
    · exact ih
    · intro w
      cases decodeText l with
      | ok j => exact ⟨hway.refl w, ih⟩
      | error e => exact ⟨hway.refl w, hway.refl⟩

theorem linesFrom_within (hway : Changes way) : ∀ {t : Step W (Except Failure Bytes)} {w : W},
    t.Within (fun _ => way) way w → ∀ buffer, (linesFrom buffer t).Within (fun _ => way) way w
  | .done _, _, h, buffer => by
    rw [linesFrom]
    split
    · exact h
    · exact ⟨h, hway.refl⟩
  | .never _, _, h, _ => h
  | .item _ (.error _) _, _, ⟨h, _⟩, _ => ⟨h, hway.refl⟩
  | .item _ (.ok _) _, _, ⟨h, hmore⟩, _ => by
    rw [linesFrom]
    exact (emitLines_within hway (fun v => linesFrom_within hway (hmore v) _) _ _).prepend hway h

/-- Decoding lines does to the surroundings what reading the chunks does. -/
theorem decodeLines_within (hway : Changes way) {chunks : Stream W (Except Failure Bytes)}
    (h : chunks.Within (fun _ => way) way) : (decodeLines chunks).Within (fun _ => way) way :=
  fun w => linesFrom_within hway (h w) []

end Codec

/-! ### Attempts -/

theorem Interceptor.applyAll_within [Ambient W] (hway : Changes way) (hambient : AmbientWithin way) :
    ∀ {is : List (Interceptor W)}, (∀ i ∈ is, i.Within way) → ∀ {request : Request W}, request.Within way →
      ∀ w, way w (applyAll is request w).1 ∧ (applyAll is request w).2.Within way
  | [], _, _, hrequest, w => ⟨hway.refl w, hrequest⟩
  | i :: is, his, request, hrequest, w => by
    obtain ⟨hi, his⟩ := List.forall_mem_cons.mp his
    obtain ⟨happlied, hchanged⟩ := hi request hrequest (Ambient.record .trace "Interceptor"
      ("applying '" ++ i.name ++ "'") w)
    obtain ⟨hrest, hlast⟩ := applyAll_within hway hambient his hchanged _
    exact ⟨hway.trans (hambient.record _ _ _ w) (hway.trans happlied hrest), hlast⟩

theorem Status.Rule.standard_within [Ambient W] : (standard (W := W)).Within answer may := by
  intro key r w hr
  have hdata := hr.data w
  rw [standard, ofDecoder]
  rcases hd : r.data w with ⟨w', e | bytes | _⟩ <;> rw [hd] at hdata <;> simpa only [hd] using hdata

theorem Status.Rule.firstOf_within (hmay : Changes may) {rules : List (Rule W)}
    (h : ∀ r ∈ rules, r.Within answer may) : (firstOf rules).Within answer may := by
  intro key r w hr
  rw [firstOf]
  cases hs : select rules r.status with
  | none => simpa only [hs] using hmay.refl w
  | some rule => simpa only [hs] using h rule (List.mem_of_find?_eq_some hs) key r w hr

/-- The rules of a client end with the standard one. -/
theorem Status.Rule.orStandard_within [Ambient W] (hmay : Changes may) {rules : List (Rule W)}
    (h : ∀ r ∈ rules, r.Within answer may) : (firstOf (rules ++ [standard])).Within answer may :=
  firstOf_within hmay (List.forall_mem_append.mpr ⟨h, List.forall_mem_singleton.mpr standard_within⟩)

/-- A response that stands for a failure keeps within the changes, whoever asks for the failure. -/
theorem Status.Faulted.toResponse_within (hmay : Changes may)
    (hfault : ∀ e w w', may w w' → answer (.error e) w w') {rule : Rule W} (h : rule.Within answer may)
    (key : String) {r : Response W} (hr : r.Within answer may) :
    (Faulted.make rule key r).toResponse.Within answer may where
  body w := by
    refine ⟨hmay.refl w, fun v => ?_⟩
    have hdecode := h key r v hr
    have hitems : ((Faulted.make rule key r).toResponse.body w).2 = Stream.once (Faulted.make rule key r).fail := rfl
    rw [hitems, Stream.once, make_fail]
    cases (rule.decode key r v).2 with
    | none => exact hdecode
    | some e => exact ⟨hfault _ _ _ hdecode, fun u => hmay.refl u⟩
  data w := by
    have hdata : (Faulted.make rule key r).toResponse.data = (Faulted.make rule key r).fail := rfl
    rw [hdata, make_fail]
    exact h key r w hr

theorem Status.handle_within [Ambient W] (hmay : Changes may) (hambient : AmbientWithin may)
    (hfault : ∀ e w w', may w w' → answer (.error e) w w') {rule : Rule W} (h : rule.Within answer may)
    (key : String) {r : Response W} (hr : r.Within answer may) (w : W) :
    may w (handle rule key r w).1 ∧ (handle rule key r w).2.Within answer may := by
  rw [handle]
  split
  · exact ⟨hambient.record _ _ _ w, Faulted.toResponse_within hmay hfault h key hr⟩
  · exact ⟨hmay.refl w, hr⟩

theorem Mapper.ignore404_within (hmay : Changes may) : (ignore404 (W := W)).Within answer may := by
  intro r hr
  simp only [ignore404]
  split
  · exact ⟨fun w => ⟨hmay.refl w, hmay.refl⟩, hmay.refl⟩
  · exact hr

theorem Mapper.applyAll_within [Ambient W] (hmay : Changes may) (hambient : AmbientWithin may) :
    ∀ {ms : List (Mapper W)}, (∀ m ∈ ms, m.Within answer may) → ∀ {r : Response W}, r.Within answer may →
      ∀ w, may w (applyAll ms r w).1 ∧ (applyAll ms r w).2.Within answer may
  | [], _, _, hr, w => ⟨hmay.refl w, hr⟩
  | m :: ms, hms, r, hr, w => by
    obtain ⟨hm, hms⟩ := List.forall_mem_cons.mp hms
    have hmapped : may w (m.apply r w).1 ∧ (m.apply r w).2.Within answer may := by
      rw [apply]
      split
      · exact ⟨hmay.refl w, hm r hr⟩
      · exact ⟨hambient.record _ _ _ w, hm r hr⟩
    obtain ⟨hrest, hlast⟩ := applyAll_within hmay hambient hms hmapped.2 _
    exact ⟨hmay.trans hmapped.1 hrest, hlast⟩

/-- Rules and mappers add no other changes to those of sending the request. -/
theorem Blueprint.attempt_of_sent [Ambient W] (hmay : Changes may) (hambient : AmbientWithin may)
    (hfault : ∀ e w w', may w w' → answer (.error e) w w') (wire : Wire W) {b : Blueprint W}
    (hrules : ∀ r ∈ b.rules, r.Within answer may) (hmappers : ∀ m ∈ b.mappers, m.Within answer may)
    {request : Request W} {w : W}
    (hsent : ∀ r, ((b.sent wire).execute request w).2 = .ok r → r.Within answer may) :
    may ((b.sent wire).execute request w).1 ((b.attempt wire).execute request w).1 ∧
      ∀ r, ((b.attempt wire).execute request w).2 = .ok r → r.Within answer may := by
  rw [attempt_execute]
  rcases hx : (b.sent wire).execute request w with ⟨w', e | r | _⟩
  · exact ⟨hmay.refl w', nofun⟩
  · rw [hx] at hsent
    have hrule := Status.Rule.orStandard_within hmay hrules
    obtain ⟨hhandled, hr⟩ := Status.handle_within hmay hambient hfault hrule b.endpoint.key (hsent r rfl) w'
    obtain ⟨hmapped, hlast⟩ := Mapper.applyAll_within hmay hambient hmappers hr
      (Status.handle (.firstOf (b.rules ++ [.standard])) b.endpoint.key r w').1
    refine ⟨hmay.trans hhandled hmapped, fun r' hr' => ?_⟩
    cases hr'
    exact hlast
  · exact ⟨hmay.refl w', nofun⟩

/-- What an attempt runs through keeps within the changes if all parts do. -/
theorem Blueprint.attempt_within [Ambient W] (hmay : Changes may) (hambient : AmbientWithin may)
    (wire : Wire W) (b : Blueprint W)
    (htransport : (b.transport.getD (Transport.exchange wire ⟨none, true, none⟩ b.endpoint.arity)).Within
      (fun _ => may) may)
    (hinterceptors : ∀ i ∈ b.interceptors, i.Within may)
    (hrules : ∀ r ∈ b.rules, r.Within (fun _ => may) may)
    (hmappers : ∀ m ∈ b.mappers, m.Within (fun _ => may) may) :
    (b.attempt wire).Within (fun _ => may) may := by
  intro request hrequest w
  obtain ⟨happlied, hchanged⟩ := Interceptor.applyAll_within hmay hambient hinterceptors hrequest w
  obtain ⟨hsent, hresponse⟩ := htransport _ hchanged (Interceptor.applyAll b.interceptors request w).1
  rw [← sent_execute] at hsent hresponse
  obtain ⟨hchecked, hlast⟩ := attempt_of_sent hmay hambient (fun _ _ _ h => h) wire hrules hmappers hresponse
  exact ⟨hmay.trans happlied (hmay.trans hsent hchecked), hlast⟩

/-! ### Policies -/

namespace Retry

/-- A policy that allows a number of retries does nothing but wait. -/
theorem BasicPolicy.toPolicy_within [Ambient W] (hmay : Changes may) (hambient : AmbientWithin may)
    (p : BasicPolicy) : (p.toPolicy (W := W)).Within may := by
  have hwait : ∀ d w, may w (wait d w) := by
    intro d w
    rw [wait]
    split
    · exact hmay.refl w
    · exact hambient.pause d w
  have hconverse : ∀ left retry, Session.Within may (p.converse left retry) := by
    intro left
    induction left with
    | zero => exact fun _ _ => trivial
    | succ left ih =>
      intro retry e
      beta_reduce
      split
      · exact ⟨hwait _, fun _ => ih _⟩
      · trivial
  exact fun w => ⟨hmay.refl w, hconverse _ _⟩

theorem Session.Within.mono (hmay : ∀ w w', may w w' → way w w') :
    ∀ {s : Session W}, s.Within may → s.Within way
  | .closed, _ => trivial
  | .await next, h => fun e => mono hmay (s := next e) (h e)
  | .perform _ rest, ⟨heffect, hrest⟩ =>
    ⟨fun w => hmay _ _ (heffect w), fun w => mono hmay (s := rest w) (hrest w)⟩
  | .answer _ rest, h => mono hmay (s := rest) h

theorem Policy.Within.mono (hmay : ∀ w w', may w w' → way w w') {p : Policy W} (h : p.Within may) :
    p.Within way :=
  fun w => ⟨hmay _ _ (h w).1, (h w).2.mono hmay⟩

/-- An answer of a policy that keeps within the changes. -/
def Answer.Within (may : W → W → Prop) (w : W) : Answer W → Prop
  | .granted w' rest _ => may w w' ∧ rest.Within may
  | .declined w' _ => may w w'
  | .silent w' => may w w'
  | .never w' => may w w'

theorem Answer.Within.prepend (hmay : Changes may) {w w' : W} (h : may w w') : ∀ {answer : Answer W},
    answer.Within may w' → answer.Within may w
  | .granted _ _ _, ⟨hw, hrest⟩ => ⟨hmay.trans h hw, hrest⟩
  | .declined _ _, hw => hmay.trans h hw
  | .silent _, hw => hmay.trans h hw
  | .never _, hw => hmay.trans h hw

theorem Session.Within.consult (hmay : Changes may) : ∀ {s : Session W}, s.Within may →
    ∀ (queue : List Failure) (w : W), (s.consult queue w).Within may w
  | .closed, _, _, w => hmay.refl w
  | .await _, _, [], w => hmay.refl w
  | .await _, h, e :: queue, w => Within.consult hmay (h e) queue w
  | .perform effect _, ⟨heffect, hrest⟩, queue, w =>
    (Within.consult hmay (hrest (effect w)) queue (effect w)).prepend hmay (heffect w)
  | .answer (.error _) _, _, _, w => hmay.refl w
  | .answer (.ok ()) _, h, _, w => ⟨hmay.refl w, h⟩

theorem Session.Within.said (hmay : Changes may) {s : Session W} (h : s.Within may) {queue : List Failure}
    {w : W} {answer : Answer W} (hc : s.consult queue w = answer) : answer.Within may w :=
  hc ▸ h.consult hmay queue w

end Retry
end Courier
