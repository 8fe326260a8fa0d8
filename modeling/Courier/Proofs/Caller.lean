import Courier.Response

/-! Callers.

    A caller runs a request and does one thing with the response: it leaves the body alone, reads its
    elements one by one for as long as it likes, or asks for its bytes. Between two elements it may act
    on the surroundings as it pleases. If what it asks for never comes, it waits for good. -/

namespace Courier

variable {W α : Type}

/-- What a caller does before it asks for the next item, knowing the items so far: it acts on the
    surroundings, or it stops. -/
abbrev Reader (W α : Type) := List α → W → Option W

/-- What a reader has got, and whether it waits for one more item, which never comes. -/
structure Got (α : Type) where
  items : List α
  waiting : Bool

/-- Reads on after an answer, for as long as the reader wants. -/
def Step.readBy (r : Reader W α) (seen : List α) : Step W α → W × Got α
  | .done w => (w, ⟨seen, false⟩)
  | .item w x more => match r (seen ++ [x]) w with
    | none => (w, ⟨seen ++ [x], false⟩)
    | some w' => readBy r (seen ++ [x]) (more w')
  | .never w => (w, ⟨seen, true⟩)

/-- Reads a stream for as long as the reader wants. -/
def Stream.readBy (r : Reader W α) (s : Stream W α) (w : W) : W × Got α := match r [] w with
  | none => (w, ⟨[], false⟩)
  | some w' => (s w').readBy r []

/-- What a caller does with a response. -/
inductive Use (W : Type) where
  | leave
  | body (reader : Reader W (Except Failure Json))
  | data

/-- Reads the body to its end; `act` is what the caller does before each item. -/
def Use.toEnd (act : List (Except Failure Json) → W → W) : Use W := .body fun seen w => some (act seen w)

/-- The caller acts on the surroundings only as it is allowed to. -/
def Use.Keeps (acts : W → W → Prop) : Use W → Prop
  | .leave => True
  | .body reader => ∀ seen w w', reader seen w = some w' → acts w w'
  | .data => ∀ w, acts w w

theorem Use.Keeps.mono {acts acts' : W → W → Prop} (hacts : ∀ w w', acts w w' → acts' w w') :
    ∀ {use : Use W}, use.Keeps acts → use.Keeps acts'
  | .leave, _ => trivial
  | .body _, h => fun seen w w' hread => hacts w w' (h seen w w' hread)
  | .data, h => fun w => hacts w w (h w)

/-- What a caller has taken of a body. -/
inductive Taken where
  | nothing
  | items (got : Got (Except Failure Json))
  | bytes (bytes : Eventual Failure Bytes)

/-- What a caller takes of a body with these elements and no failure, if it comes to its end. -/
def Use.takes (arity : Arity) (js : List Json) : Use W → Taken
  | .leave => .nothing
  | .body _ => .items ⟨js.map .ok, false⟩
  | .data => .bytes (.ok (Codec.encodeElements arity js))

/-- What a caller has of a call; it may wait for good before it has anything. -/
inductive Receipt where
  | refused (failure : Failure)
  | waiting
  | response (status : Nat) (headers : Http.Headers) (taken : Taken)

/-- The failure that a caller has of a call: in place of a response, or as the last item of its body. -/
def Receipt.failure? : Receipt → Option Failure
  | .refused e => some e
  | .response _ _ (.items got) => match got.items.getLast? with
    | some (.error e) => some e
    | _ => none
  | _ => none

/-- Does with a response what the caller wants. -/
def Response.serve (r : Response W) : Use W → W → W × Taken
  | .leave, w => (w, .nothing)
  | .body reader, w =>
    let (w, items) := r.body w
    let (w, got) := items.readBy reader w
    (w, .items got)
  | .data, w =>
    let (w, bytes) := r.data w
    (w, .bytes bytes)

/-- A call, from the request to what the caller has of it. -/
def Exchange.call (x : Exchange W) (request : Request W) (use : Use W) (w : W) : W × Receipt :=
  match x.execute request w with
  | (w, .error e) => (w, .refused e)
  | (w, .never) => (w, .waiting)
  | (w, .ok r) =>
    let (w, taken) := r.serve use w
    (w, .response r.status r.headers taken)

/-- What has been read stays read. -/
theorem Step.readBy_grows (r : Reader W α) : ∀ (t : Step W α) (seen : List α),
    ∃ later, (t.readBy r seen).2.items = seen ++ later
  | .done _, seen => ⟨[], (List.append_nil seen).symm⟩
  | .never _, seen => ⟨[], (List.append_nil seen).symm⟩
  | .item w x more, seen => by
    rw [readBy]
    cases r (seen ++ [x]) w with
    | none => exact ⟨[x], rfl⟩
    | some w' =>
      obtain ⟨later, hlater⟩ := readBy_grows r (more w') (seen ++ [x])
      exact ⟨x :: later, by rw [hlater, List.append_assoc]; rfl⟩

theorem Response.serve_toEnd {r : Response W} {items : Stream W (Except Failure Json)}
    (hbody : r.body = fun w => (w, items)) (act : List (Except Failure Json) → W → W) (w : W) :
    r.serve (.toEnd act) w = (((items (act [] w)).readBy (fun seen w => some (act seen w)) []).1,
      .items ((items (act [] w)).readBy (fun seen w => some (act seen w)) []).2) := by
  simp only [serve, Use.toEnd, hbody]
  rfl

namespace Exchange

theorem call_of_error {x : Exchange W} {request : Request W} {w w' : W} {e : Failure}
    (h : x.execute request w = (w', .error e)) (use : Use W) : x.call request use w = (w', .refused e) := by
  rw [call, h]

theorem call_of_never {x : Exchange W} {request : Request W} {w w' : W}
    (h : x.execute request w = (w', .never)) (use : Use W) : x.call request use w = (w', .waiting) := by
  rw [call, h]

theorem call_of_ok {x : Exchange W} {request : Request W} {w w' : W} {r : Response W}
    (h : x.execute request w = (w', .ok r)) (use : Use W) : x.call request use w
      = ((r.serve use w').1, .response r.status r.headers (r.serve use w').2) := by
  rw [call, h]

end Exchange
end Courier
