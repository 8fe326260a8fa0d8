/-! Items on demand.

    A stream is asked in a state of the surroundings; it answers with an item, the state in which the
    item was produced and the rest of the stream, or it ends, or it waits for what never comes, and
    whoever asked waits with it. It is asked for nothing that is not wanted. Every stream has only so
    many items. -/

namespace Courier

/-- What comes of something that was asked for, if anything ever does. -/
inductive Eventual (ε α : Type) where
  | error (failure : ε)
  | ok (value : α)
  | never
deriving DecidableEq

/-- What is there already. -/
def Eventual.ofExcept {ε α : Type} : Except ε α → Eventual ε α
  | .ok a => .ok a
  | .error e => .error e

/-- The answer of a stream that was asked; `never` if there is none, ever. -/
inductive Step (W α : Type) where
  | done (after : W)
  | item (after : W) (value : α) (more : W → Step W α)
  | never (after : W)

/-- Items on demand. -/
abbrev Stream (W α : Type) := W → Step W α

namespace Step

variable {W α β ε : Type}

/-- Each item changed by `f`. -/
def map (f : α → β) : Step W α → Step W β
  | .done w => .done w
  | .item w a more => .item w (f a) fun w' => map f (more w')
  | .never w => .never w

/-- Each item shown to `f` when it is handed out. -/
def tap (f : α → W → W) : Step W α → Step W α
  | .done w => .done w
  | .item w a more => .item (f a w) a fun w' => tap f (more w')
  | .never w => .never w

/-- All items, up to the first error. -/
def collect : Step W (Except ε α) → W × Eventual ε (List α)
  | .done w => (w, .ok [])
  | .item w (.error e) _ => (w, .error e)
  | .item w (.ok a) more => match collect (more w) with
    | (w', .ok as) => (w', .ok (a :: as))
    | (w', .error e) => (w', .error e)
    | (w', .never) => (w', .never)
  | .never w => (w, .never)

end Step

namespace Stream

variable {W α β ε : Type}

/-- No items. -/
def empty : Stream W α := .done

/-- The items of a list. -/
def ofList : List α → Stream W α
  | [] => .done
  | a :: as => fun w => .item w a (ofList as)

/-- One item, produced when it is asked for. -/
def once (produce : W → W × Eventual ε α) : Stream W (Except ε α) := fun w => match produce w with
  | (w', .ok a) => .item w' (.ok a) .done
  | (w', .error e) => .item w' (.error e) .done
  | (w', .never) => .never w'

/-- Each item changed by `f`. -/
def map (f : α → β) (s : Stream W α) : Stream W β := fun w => (s w).map f

/-- Each item shown to `f` when it is handed out. -/
def tap (f : α → W → W) (s : Stream W α) : Stream W α := fun w => (s w).tap f

/-- All items, up to the first error. -/
def collect (s : Stream W (Except ε α)) (w : W) : W × Eventual ε (List α) := (s w).collect

end Stream
end Courier
