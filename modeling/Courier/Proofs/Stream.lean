import Courier.Transport

/-! What streams give.

    A stream gives a list of items if it has these and no others, whatever is done to the surroundings
    between two of them. Chunks carry bytes if they are none but these, however they are cut. -/

namespace Courier

variable {W α : Type}

/-- The items that are left, whatever happens to the surroundings. -/
def Step.Gives : Step W α → List α → Prop
  | .done _, items => items = []
  | .item _ x more, items => ∃ rest, items = x :: rest ∧ ∀ w, Gives (more w) rest
  | .never _, _ => False

/-- The stream has these items, in all surroundings. -/
def Stream.Gives (s : Stream W α) (items : List α) : Prop := ∀ w, (s w).Gives items

/-- No chunk that is left is a failure, and all of them together are these bytes. -/
def Step.Carries : Step W (Except Failure Bytes) → Bytes → Prop
  | .done _, data => data = []
  | .item _ (.ok chunk) more, data => ∃ rest, data = chunk ++ rest ∧ ∀ w, Carries (more w) rest
  | .item _ (.error _) _, _ => False
  | .never _, _ => False

/-- The chunks are these bytes, in all surroundings. -/
def Stream.Carries (s : Stream W (Except Failure Bytes)) (data : Bytes) : Prop := ∀ w, (s w).Carries data

/-- Asking for the body changes nothing, and it has these items. -/
def Response.Gives (r : Response W) (items : List (Except Failure Json)) : Prop :=
  ∀ w, ∃ body, r.body w = (w, body) ∧ body.Gives items

namespace Stream

theorem ofList_gives : ∀ items : List α, (ofList items : Stream W α).Gives items
  | [], _ => rfl
  | _ :: items, _ => ⟨items, rfl, ofList_gives items⟩

/-- Bytes are carried however they are cut. -/
theorem ofList_carries : ∀ chunks : List Bytes,
    (ofList (chunks.map .ok) : Stream W (Except Failure Bytes)).Carries chunks.flatten
  | [], _ => rfl
  | _ :: chunks, _ => ⟨chunks.flatten, rfl, ofList_carries chunks⟩

end Stream

namespace Body

theorem emit_gives (taps : List (Bytes → W → W)) : ∀ items, (emit taps items).Gives items
  | [], _ => rfl
  | .error _ :: rest, _ => ⟨rest, rfl, emit_gives taps rest⟩
  | .ok _ :: rest, _ => ⟨rest, rfl, Stream.ofList_gives rest⟩

/-- Whatever hooks there are, a subscription has the chunks of the body. -/
theorem subscribe_gives (b : Body W) : b.subscribe.Gives b.items := emit_gives b.taps b.items

end Body

theorem Step.Carries.collect : ∀ {s : Step W (Except Failure Bytes)} {data : Bytes}, s.Carries data →
    ∃ w chunks, s.collect = (w, .ok chunks) ∧ chunks.flatten = data
  | .done w, _, h => ⟨w, [], rfl, h.symm⟩
  | .item w (.ok chunk) more, _, ⟨rest, hdata, hmore⟩ => by
    obtain ⟨w', chunks, hcollect, hchunks⟩ := (hmore w).collect
    refine ⟨w', chunk :: chunks, ?_, ?_⟩
    · rw [Step.collect, hcollect]
    · rw [List.flatten_cons, hchunks, hdata]

theorem Stream.Carries.readAll {chunks : Stream W (Except Failure Bytes)} {data : Bytes}
    (h : chunks.Carries data) (w : W) : ∃ w', Transport.readAll chunks w = (w', .ok data) := by
  obtain ⟨w', cs, hcollect, hcs⟩ := (h w).collect
  refine ⟨w', ?_⟩
  rw [Transport.readAll, Stream.collect, hcollect, ← hcs]

end Courier
