import Courier.Proofs.Alike.Basic

/-! Requests that are alike.

    Whoever gets a request may read its method, its URL and its headers, and subscribe to its body. Two
    requests are alike if none of that tells them apart: a hook on the body of the first may be missing on
    the second as long as it does nothing that matters (`Body.Alike.subscribe`). -/

namespace Courier

variable {V W : Type} (agree : V → W → Prop)

/-- Hooks that do the same, in their order; the first side may have more that keep what agrees. -/
inductive TapsAlike : List (Bytes → V → V) → List (Bytes → W → W) → Prop where
  | nil : TapsAlike [] []
  | cons {tap tap' taps taps'} (h : ∀ chunk, Keeps agree (tap chunk) (tap' chunk))
    (hrest : TapsAlike taps taps') : TapsAlike (tap :: taps) (tap' :: taps')
  | aside {tap taps taps'} (h : ∀ chunk, Keeps agree (tap chunk) id) (hrest : TapsAlike taps taps') :
    TapsAlike (tap :: taps) taps'

/-- The same chunks, and hooks that are alike. -/
structure Body.Alike (b : Body V) (b' : Body W) : Prop where
  items : b.items = b'.items
  taps : TapsAlike agree b.taps b'.taps

/-- The same request, with bodies that are alike. -/
structure Request.Alike (r : Request V) (r' : Request W) : Prop where
  method : r.method = r'.method
  uri : r.uri = r'.uri
  headers : r.headers = r'.headers
  body : Option.Rel (Body.Alike agree) r.body r'.body

variable {agree}

theorem TapsAlike.keeps {taps : List (Bytes → V → V)} {taps' : List (Bytes → W → W)}
    (h : TapsAlike agree taps taps') (chunk : Bytes) :
    Keeps agree (fun v => taps.foldl (fun v tap => tap chunk v) v)
      (fun w => taps'.foldl (fun w tap => tap chunk w) w) := by
  induction h with
  | nil => exact fun _ _ hv => hv
  | cons htap _ ih => exact fun v w hv => ih _ _ (htap chunk v w hv)
  | aside htap _ ih => exact fun v w hv => ih _ _ (htap chunk v w hv)

/-- One more hook that does nothing that matters. -/
theorem TapsAlike.concat {taps : List (Bytes → V → V)} {taps' : List (Bytes → W → W)}
    (h : TapsAlike agree taps taps') {hook : Bytes → V → V} (hhook : ∀ chunk, Keeps agree (hook chunk) id) :
    TapsAlike agree (taps ++ [hook]) taps' := by
  induction h with
  | nil => exact .aside hhook .nil
  | cons htap _ ih => exact .cons htap ih
  | aside htap _ ih => exact .aside htap ih

/-- One more hook on both sides. -/
theorem TapsAlike.snoc {taps : List (Bytes → V → V)} {taps' : List (Bytes → W → W)} (h : TapsAlike agree taps taps')
    {hook : Bytes → V → V} {hook' : Bytes → W → W} (hhook : ∀ chunk, Keeps agree (hook chunk) (hook' chunk)) :
    TapsAlike agree (taps ++ [hook]) (taps' ++ [hook']) := by
  induction h with
  | nil => exact .cons hhook .nil
  | cons htap _ ih => exact .cons htap ih
  | aside htap _ ih => exact .aside htap ih

/-- Bodies that are alike have the same chunks in each subscription. -/
theorem Body.Alike.subscribe {b : Body V} {b' : Body W} (h : b.Alike agree b') :
    b.subscribe.Alike agree b'.subscribe := by
  have hemit : ∀ items, Stream.Alike agree (emit b.taps items) (emit b'.taps items) := by
    intro items
    induction items with
    | nil => exact fun _ _ hv => hv
    | cons item items ih =>
      intro v w hv
      cases item with
      | error e => exact ⟨hv, rfl, ih⟩
      | ok chunk => exact ⟨h.taps.keeps chunk v w hv, rfl, ofList_alike items⟩
  rw [Body.subscribe, Body.subscribe, ← h.items]
  exact hemit b.items

/-- Requests whose bodies are changed alike. -/
theorem Request.Alike.mapBody {V' W' : Type} {agree' : V' → W' → Prop} {r : Request V} {r' : Request W}
    (h : r.Alike agree r') {f : Body V → Body V'} {g : Body W → Body W'}
    (hfg : ∀ b b', b.Alike agree b' → (f b).Alike agree' (g b')) :
    Request.Alike agree' { r with body := r.body.map f } { r' with body := r'.body.map g } := by
  refine ⟨h.method, h.uri, h.headers, ?_⟩
  have hbody := h.body
  simp only
  generalize r.body = b at hbody ⊢
  generalize r'.body = b' at hbody ⊢
  cases hbody with
  | none => exact .none
  | some hb => exact .some (hfg _ _ hb)

end Courier
