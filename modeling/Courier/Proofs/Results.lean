import Courier.Client
import Courier.Proofs.Caller

/-! Results of methods.

    A method with at most one result is a call whose caller reads one element at most; a method with many
    is a call whose caller reads on for as long as it likes. Each element is read in the shape that is asked
    for when it is handed out. -/

namespace Courier

variable {W α β : Type}

/-- A reader of items in another shape. -/
def Reader.comap (f : α → β) (r : Reader W β) : Reader W α := fun seen => r (seen.map f)

/-- What a reader has got, in another shape. -/
def Got.map (f : α → β) (got : Got α) : Got β := ⟨got.items.map f, got.waiting⟩

theorem Step.readBy_map (f : α → β) (r : Reader W β) : ∀ (t : Step W α) (seen : List α),
    (t.map f).readBy r (seen.map f)
      = ((t.readBy (r.comap f) seen).1, (t.readBy (r.comap f) seen).2.map f)
  | .done _, _ => rfl
  | .never _, _ => rfl
  | .item w x more, seen => by
    have hseen : seen.map f ++ [f x] = (seen ++ [x]).map f := by rw [List.map_append]; rfl
    rw [map, readBy, readBy, hseen, Reader.comap]
    cases r ((seen ++ [x]).map f) w with
    | none => rfl
    | some w' => exact readBy_map f r (more w') (seen ++ [x])

theorem Stream.readBy_map (f : α → β) (r : Reader W β) (s : Stream W α) (w : W) :
    (s.map f).readBy r w = ((s.readBy (r.comap f) w).1, (s.readBy (r.comap f) w).2.map f) := by
  have hfirst : r.comap f [] w = r [] w := rfl
  rw [readBy, readBy, hfirst]
  cases r [] w with
  | none => rfl
  | some v => exact Step.readBy_map f r (s v) []

/-- Reads one element at most. -/
def Use.first : Use W := .body fun seen w => if seen.isEmpty then some w else none

namespace Client

/-- The results of a method that has many, read for as long as the reader wants. -/
def read (c : Client W) (d : Json.Decoder α) (request : Request W) (reader : Reader W (Except Failure α)) :
    Query W (Got (Except Failure α)) := fun w =>
  match c.flux d request w with
  | (w, .error e) => (w, .error e)
  | (w, .never) => (w, .never)
  | (w, .ok items) => match items.readBy reader w with
    | (w, got) => (w, .ok got)

variable {c : Client W} (d : Json.Decoder α) (request : Request W) {w w' : W} {status : Nat}
  {headers : Http.Headers}

theorem expect_of_arity {arity : Arity} (h : c.endpoint.arity = arity) : c.expect arity = .ok () := if_pos h

/-- A call without an element has no result. -/
theorem mono_of_call (h : c.endpoint.arity = .mono)
    (hcall : c.pipeline.call request .first w = (w', .response status headers (.items ⟨[], false⟩))) :
    c.mono d request w = (w', .ok none) := by
  rcases hx : c.pipeline.execute request w with ⟨w₁, e | r | _⟩
  · rw [Exchange.call_of_error hx] at hcall
    cases hcall
  · rw [Exchange.call_of_ok hx, Use.first, Response.serve] at hcall
    simp only [Stream.readBy, List.isEmpty_nil, if_true] at hcall
    rw [mono, expect_of_arity h]
    simp only [execute, hx]
    cases hi : (r.body w₁).2 (r.body w₁).1 with
    | done w₂ =>
      rw [hi] at hcall
      cases hcall
      rfl
    | item w₂ x more =>
      rw [hi] at hcall
      cases hcall
    | never w₂ =>
      rw [hi] at hcall
      cases hcall
  · rw [Exchange.call_of_never hx] at hcall
    cases hcall

/-- The elements of a call are the results, each in its shape. -/
theorem read_of_call (h : c.endpoint.arity = .flux) (reader : Reader W (Except Failure α))
    {got : Got (Except Failure Json)}
    (hcall : c.pipeline.call request (.body (reader.comap (typed d))) w
      = (w', .response status headers (.items got))) :
    c.read d request reader w = (w', .ok (got.map (typed d))) := by
  rcases hx : c.pipeline.execute request w with ⟨w₁, e | r | _⟩
  · rw [Exchange.call_of_error hx] at hcall
    cases hcall
  · rw [Exchange.call_of_ok hx] at hcall
    rw [read, flux, expect_of_arity h]
    simp only [execute, hx, Stream.readBy_map]
    cases hcall
    rfl
  · rw [Exchange.call_of_never hx] at hcall
    cases hcall

end Client
end Courier
