import Courier.Ambient
import Courier.Proofs.Caller

/-! Calls that are alike.

    Two surroundings may agree on all that matters to a call. Parts are alike if from surroundings that
    agree they lead to surroundings that agree again, and to the same results. Calls of exchanges that
    are alike cannot be told apart by their callers (`call_alike`). -/

namespace Courier

variable {V W α : Type} (agree : V → W → Prop)

/-! ### Streams -/

/-- The same items in surroundings that agree, however these are changed between two items. -/
def Step.Alike : Step V α → Step W α → Prop
  | .done v, .done w => agree v w
  | .item v x more, .item w y more' => agree v w ∧ x = y ∧
    ∀ v' w', agree v' w' → Alike (more v') (more' w')
  | .never v, .never w => agree v w
  | _, _ => False

/-- The same items from surroundings that agree. -/
def Stream.Alike (s : Stream V α) (t : Stream W α) : Prop := ∀ v w, agree v w → (s v).Alike agree (t w)

/-- Effects that lead from surroundings that agree to such. -/
def Keeps (f : V → V) (g : W → W) : Prop := ∀ v w, agree v w → agree (f v) (g w)

variable {agree}

theorem ofList_alike : ∀ items : List α, Stream.Alike agree (Stream.ofList items) (Stream.ofList items)
  | [], _, _, h => h
  | _ :: items, _, _, h => ⟨h, rfl, ofList_alike items⟩

theorem once_alike {ε : Type} {f : V → V × Eventual ε α} {g : W → W × Eventual ε α}
    (h : ∀ v w, agree v w → agree (f v).1 (g w).1 ∧ (f v).2 = (g w).2) :
    Stream.Alike agree (Stream.once f) (Stream.once g) := by
  intro v w hv
  obtain ⟨hf, hg⟩ := h v w hv
  rw [Stream.once, Stream.once]
  rcases hv' : f v with ⟨v', e | a | _⟩ <;> rcases hw' : g w with ⟨w', e' | a' | _⟩ <;>
    rw [hv', hw'] at hf hg <;> cases hg
  · exact ⟨hf, rfl, fun _ _ h' => h'⟩
  · exact ⟨hf, rfl, fun _ _ h' => h'⟩
  · exact hf

/-- Hooks that keep what agrees change nothing else. -/
theorem Step.Alike.tap {f : α → V → V} {g : α → W → W} (hfg : ∀ x, Keeps agree (f x) (g x)) :
    ∀ {s : Step V α} {t : Step W α}, s.Alike agree t → (s.tap f).Alike agree (t.tap g)
  | .done _, .done _, h => h
  | .item _ x _, .item _ _ _, ⟨hv, rfl, hmore⟩ =>
    ⟨hfg x _ _ hv, rfl, fun v' w' h' => (hmore v' w' h').tap hfg⟩
  | .never _, .never _, h => h

theorem Stream.Alike.tap {f : α → V → V} {g : α → W → W} (hfg : ∀ x, Keeps agree (f x) (g x))
    {s : Stream V α} {t : Stream W α} (h : s.Alike agree t) : (s.tap f).Alike agree (t.tap g) :=
  fun v w hv => (h v w hv).tap hfg

/-- Collecting gives the same. -/
theorem Step.Alike.collect {ε : Type} : ∀ {s : Step V (Except ε α)} {t : Step W (Except ε α)},
    s.Alike agree t → agree s.collect.1 t.collect.1 ∧ s.collect.2 = t.collect.2
  | .done _, .done _, h => ⟨h, rfl⟩
  | .item _ (.error _) _, .item _ _ _, ⟨hv, rfl, _⟩ => ⟨hv, rfl⟩
  | .item v (.ok a) more, .item w _ more', ⟨hv, rfl, hmore⟩ => by
    obtain ⟨hagree, hsame⟩ := (hmore v w hv).collect
    rw [Step.collect, Step.collect]
    rcases hs : (more v).collect with ⟨v', e | as | _⟩ <;>
      rcases ht : (more' w).collect with ⟨w', e' | as' | _⟩ <;>
      rw [hs, ht] at hagree hsame <;> cases hsame <;> exact ⟨hagree, rfl⟩
  | .never _, .never _, h => ⟨h, rfl⟩

/-- Readers that do the same. -/
def ReadersAlike (agree : V → W → Prop) (r : Reader V α) (r' : Reader W α) : Prop :=
  ∀ seen v w, agree v w → Option.Rel agree (r seen v) (r' seen w)

theorem Step.Alike.readBy {r : Reader V α} {r' : Reader W α} (hr : ReadersAlike agree r r') :
    ∀ {s : Step V α} {t : Step W α}, s.Alike agree t → ∀ seen,
      agree (s.readBy r seen).1 (t.readBy r' seen).1 ∧ (s.readBy r seen).2 = (t.readBy r' seen).2
  | .done _, .done _, h, _ => ⟨h, rfl⟩
  | .item v x more, .item w _ more', ⟨hv, rfl, hmore⟩, seen => by
    have hnext := hr (seen ++ [x]) v w hv
    rw [Step.readBy, Step.readBy]
    cases h : r (seen ++ [x]) v <;> cases h' : r' (seen ++ [x]) w <;> rw [h, h'] at hnext <;> cases hnext
    · exact ⟨hv, rfl⟩
    · next hagree => exact (hmore _ _ hagree).readBy hr _
  | .never _, .never _, h, _ => ⟨h, rfl⟩

theorem Stream.Alike.readBy {r : Reader V α} {r' : Reader W α} (hr : ReadersAlike agree r r')
    {s : Stream V α} {t : Stream W α} (h : s.Alike agree t) {v : V} {w : W} (hv : agree v w) :
    agree (s.readBy r v).1 (t.readBy r' w).1 ∧ (s.readBy r v).2 = (t.readBy r' w).2 := by
  have hnext := hr [] v w hv
  rw [Stream.readBy, Stream.readBy]
  cases hs : r [] v <;> cases ht : r' [] w <;> rw [hs, ht] at hnext <;> cases hnext
  · exact ⟨hv, rfl⟩
  · next hagree => exact (h _ _ hagree).readBy hr []

/-! ### Exchanges -/

variable (agree)

/-- The same status and headers, and bodies that are alike. -/
structure Response.Alike (r : Response V) (r' : Response W) : Prop where
  status : r.status = r'.status
  headers : r.headers = r'.headers
  body : ∀ v w, agree v w → agree (r.body v).1 (r'.body w).1 ∧ (r.body v).2.Alike agree (r'.body w).2
  data : ∀ v w, agree v w → agree (r.data v).1 (r'.data w).1 ∧ (r.data v).2 = (r'.data w).2

/-- The same failure, responses that are alike, or no answer ever, in surroundings that agree. -/
inductive ResultsAlike : V × Eventual Failure (Response V) → W × Eventual Failure (Response W) → Prop where
  | refused {v w} (e : Failure) (h : agree v w) : ResultsAlike (v, .error e) (w, .error e)
  | never {v w} (h : agree v w) : ResultsAlike (v, .never) (w, .never)
  | arrived {v w r r'} (h : agree v w) (hr : Response.Alike agree r r') :
    ResultsAlike (v, .ok r) (w, .ok r')

variable (same : Request V → Request W → Prop)

/-- Alike results for the same request. -/
def Exchange.Alike (x : Exchange V) (x' : Exchange W) : Prop :=
  ∀ request request', same request request' → ∀ v w, agree v w →
    ResultsAlike agree (x.execute request v) (x'.execute request' w)

/-- Callers that do the same. -/
def Use.Alike : Use V → Use W → Prop
  | .leave, .leave => True
  | .body reader, .body reader' => ReadersAlike agree reader reader'
  | .data, .data => True
  | _, _ => False

variable {agree same}

theorem Response.Alike.serve {r : Response V} {r' : Response W} (h : r.Alike agree r') :
    ∀ {use : Use V} {use' : Use W}, use.Alike agree use' → ∀ {v w}, agree v w →
      agree (r.serve use v).1 (r'.serve use' w).1 ∧ (r.serve use v).2 = (r'.serve use' w).2
  | .leave, .leave, _, _, _, hv => ⟨hv, rfl⟩
  | .body _, .body _, huse, v, w, hv => by
    obtain ⟨hbody, hitems⟩ := h.body v w hv
    obtain ⟨hagree, hseen⟩ := hitems.readBy huse hbody
    exact ⟨hagree, congrArg Taken.items hseen⟩
  | .data, .data, _, v, w, hv => by
    obtain ⟨hdata, hbytes⟩ := h.data v w hv
    exact ⟨hdata, congrArg Taken.bytes hbytes⟩

/-- A caller that does the same has the same of calls that are alike. -/
theorem Exchange.Alike.call {x : Exchange V} {x' : Exchange W} (h : x.Alike agree same x')
    {request : Request V} {request' : Request W} (hrequest : same request request') {use : Use V}
    {use' : Use W} (huse : use.Alike agree use') {v : V} {w : W} (hv : agree v w) :
    agree (x.call request use v).1 (x'.call request' use' w).1 ∧
      (x.call request use v).2 = (x'.call request' use' w).2 := by
  have hresult := h request request' hrequest v w hv
  rw [Exchange.call, Exchange.call]
  generalize x.execute request v = result at hresult
  generalize x'.execute request' w = result' at hresult
  cases hresult with
  | refused e h => exact ⟨h, rfl⟩
  | never h => exact ⟨h, rfl⟩
  | arrived h hr =>
    obtain ⟨hagree, htaken⟩ := hr.serve huse h
    refine ⟨hagree, ?_⟩
    simp only [hr.status, hr.headers, htaken]

/-! ### Surroundings -/

variable (agree)

/-- What the parts of a call need of their surroundings is alike. -/
structure EffectsAlike [Ambient V] [Ambient W] : Prop where
  record : ∀ level part message, Keeps agree (Ambient.record level part message)
    (Ambient.record level part message)
  pause : ∀ d, Keeps agree (Ambient.pause d) (Ambient.pause d)
  calendar : ∀ v w, agree v w → Ambient.calendar v = Ambient.calendar w

/-- What a call that is watched needs of its surroundings is alike. -/
structure AmbientAlike [Ambient V] [Ambient W] : Prop extends EffectsAlike agree where
  elapsed : ∀ v w, agree v w → Ambient.elapsed v = Ambient.elapsed w
  freshId : ∀ v w, agree v w → agree (Ambient.freshId v).1 (Ambient.freshId w).1 ∧
    (Ambient.freshId v).2 = (Ambient.freshId w).2

end Courier
