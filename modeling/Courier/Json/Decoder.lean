import Courier.Json.Reader
import Courier.Power

/-! Reading a shape out of a node.

    A decoder says which shape it expects; the first difference, in the order of the text, is the fault.
    A record may be written as an object, where unknown members are passed over, or as a list of its
    fields in their order. -/

namespace Courier.Json

/-- Reads a value of a type from a node. -/
abbrev Decoder (α : Type) := Node → Except Fault α

/-- What a scalar is, when something else was expected. -/
def Scalar.found : Scalar → Found
  | .null => .null
  | .bool b => .bool b
  | .number n => .number n
  | .string s => .string s

namespace Decoder

/-- Refuses a node of another shape. -/
def mismatch {α : Type} (expected : String) : Decoder α
  | .scalar _ _ (.error f) _ => .error f
  | .scalar _ after (.ok v) _ => .error ⟨.invalidType v.found expected, after⟩
  | .array start _ _ _ _ => .error ⟨.invalidType .sequence expected, start⟩
  | .object start _ _ _ _ => .error ⟨.invalidType .map expected, start⟩
  | .hole _ f => .error f

/-- Any value. -/
def json : Decoder Json := Node.toJson

/-- A boolean. -/
def bool : Decoder Bool
  | .scalar _ _ (.ok (.bool b)) _ => .ok b
  | n => mismatch "a boolean" n

/-- A string. -/
def string : Decoder String
  | .scalar _ _ (.ok (.string s)) _ => .ok s
  | n => mismatch "a string" n

/-- A string of one character. -/
def char : Decoder Char
  | .scalar _ after (.ok (.string s)) _ => match s.toList with
    | [c] => .ok c
    | _ => .error ⟨.invalidValue (.string s) "a character", after⟩
  | n => mismatch "a character" n

/-- Nothing. -/
def unit : Decoder Unit
  | .scalar _ _ (.ok .null) _ => .ok ()
  | n => mismatch "unit" n

/-- A whole number from `low` up to, not including, `high`. -/
def wholeBetween (low high : Int) (expected : String) : Decoder Int
  | .scalar p after (.ok (.number n)) s => match n with
    | .whole v h =>
      if low ≤ v && v < high then .ok v
      else .error ⟨.invalidValue (.number (.whole v h)) expected, after⟩
    | .float x => mismatch expected (.scalar p after (.ok (.number (.float x))) s)
  | n => mismatch expected n

/-- A natural number of so many bits. -/
def natural (bits : Nat) (expected : String) : Decoder Nat := fun n => do
  let v ← wholeBetween 0 (twoTo bits) expected n
  return v.toNat

/-- A signed number of so many bits. -/
def signed (bits : Nat) (expected : String) : Decoder Int :=
  wholeBetween (-(twoTo (bits - 1) : Int)) (twoTo (bits - 1)) expected

/-- A double; whole numbers are rounded. -/
def float (expected : String) : Decoder Binary64
  | .scalar p after (.ok (.number n)) s => match n with
    | .float x => .ok x
    | .whole v h => match Binary64.ofNat (decide (v < 0)) v.natAbs with
      | some x => .ok x
      | none => mismatch expected (.scalar p after (.ok (.number (.whole v h))) s)
  | n => mismatch expected n

/-- A value or null. -/
def optional {α : Type} (d : Decoder α) : Decoder (Option α)
  | .scalar _ _ (.ok .null) _ => .ok none
  | n => do
    let v ← d n
    return some v

/-- Each of several nodes. -/
def each {α : Type} (d : Decoder α) : List Node → Except Fault (List α)
  | [] => .ok []
  | n :: ns => do
    let v ← d n
    let vs ← each d ns
    return v :: vs

/-- A list. -/
def list {α : Type} (d : Decoder α) : Decoder (List α)
  | .array _ _ entry items close => do
    check entry
    let vs ← each d items
    close.read
    return vs
  | n => mismatch "a sequence" n

/-- The values of several members, by key. -/
def eachMember {α : Type} (d : Decoder α) : List (Key × Node) → Except Fault (List (String × α))
  | [] => .ok []
  | (k, n) :: ms => do
    let name ← k.value
    let v ← d n
    let vs ← eachMember d ms
    return (name, v) :: vs

/-- An object of equal values, in the order of the text. -/
def dictionary {α : Type} (d : Decoder α) : Decoder (List (String × α))
  | .object _ _ entry members close => do
    check entry
    let vs ← eachMember d members
    close.read
    return vs
  | n => mismatch "a map" n

/-- What must follow the last item that a shape takes from a list of `total` items. -/
def endOfList (start : Mark) (total : Nat) (left : List Node) (close : Close) : Except Fault Unit :=
  match left with
  | n :: _ =>
    if start.isSome then .error ⟨.trailingCharacters, n.peek⟩
    else .error ⟨.invalidLength total "fewer elements in array", none⟩
  | [] => match close with
    | .broken f _ =>
      .error (if f.cause == .expectedListCommaOrEnd then { f with cause := .trailingCharacters } else f)
    | _ => .ok ()

/-- The place behind a container. -/
def Close.after : Close → Mark
  | .closed after => after
  | _ => none

/-- A list that is too short. -/
def tooShort {α : Type} (count : Nat) (expected : String) (close : Close) : Except Fault α := do
  close.read
  .error ⟨.invalidLength count expected, Close.after close⟩

/-- A pair, written as a list of two. -/
def pair {α β : Type} (first : Decoder α) (second : Decoder β) : Decoder (α × β)
  | .array start _ entry items close => do
    check entry
    match items with
    | [] => tooShort 0 "a tuple of size 2" close
    | n :: rest =>
      let a ← first n
      match rest with
      | [] => tooShort 1 "a tuple of size 2" close
      | m :: left =>
        let b ← second m
        endOfList start items.length left close
        return (a, b)
  | n => mismatch "a tuple of size 2" n

/-- A field of a record that is built up from a start value: whether an object must have it, and whether
    a list must. -/
structure Field (σ : Type) where
  name : String
  required : Bool
  requiredInList : Bool
  set : Node → σ → Except Fault σ

/-- A field that is set to what a decoder reads. -/
def Field.of {σ α : Type} (name : String) (required : Bool) (d : Decoder α) (put : α → σ → σ) : Field σ :=
  ⟨name, required, required, fun n s => do
    let v ← d n
    return put v s⟩

/-- Takes the members of an object into the record; `seen` names the fields that are set. -/
def setMembers {σ : Type} (fields : List (Field σ)) :
    List (Key × Node) → List String → σ → Except Fault (List String × σ)
  | [], seen, s => .ok (seen, s)
  | (k, n) :: ms, seen, s => do
    let name ← k.value
    match fields.find? fun f => f.name == name with
    | none =>
      n.skip
      setMembers fields ms seen s
    | some f =>
      if seen.contains name then .error ⟨.duplicateField name, k.after⟩
      else
        let s ← f.set n s
        setMembers fields ms (name :: seen) s

/-- Takes the items of a list into the fields in their order; returns the items left, or the first
    required field that has none. -/
def setItems {σ : Type} : List (Field σ) → List Node → Nat → σ → Except Fault (Except Nat (List Node × σ))
  | [], ns, _, s => .ok (.ok (ns, s))
  | f :: fs, [], i, s => if f.requiredInList then .ok (.error i) else setItems fs [] (i + 1) s
  | f :: fs, n :: ns, i, s => do
    let s ← f.set n s
    setItems fs ns (i + 1) s

/-- `n` elements, in words. -/
def elements (n : Nat) : String := if n == 1 then "1 element" else s!"{n} elements"

/-- A record of fields. -/
def record {σ : Type} (name : String) (fields : List (Field σ)) (blank : σ) : Decoder σ
  | .object _ _ entry members close => do
    check entry
    let (seen, s) ← setMembers fields members [] blank
    close.read
    match fields.find? fun f => f.required && !seen.contains f.name with
    | some f => .error ⟨.missingField f.name, Close.after close⟩
    | none => return s
  | .array start _ entry items close => do
    check entry
    match ← setItems fields items 0 blank with
    | .error i =>
      let size := elements fields.length
      tooShort i s!"struct {name} with {size}" close
    | .ok (left, s) =>
      if items.length < fields.length then close.read
      endOfList start items.length left close
      return s
  | n => mismatch s!"struct {name}" n

/-- Reads a shape from a whole text. -/
def ofBytes {α : Type} (d : Decoder α) (text : Bytes) : Except Fault α := do
  let doc := Document.ofBytes text
  let v ← d doc.root
  check doc.trailing
  return v

/-- Reads a shape from a value in memory. -/
def ofJson {α : Type} (d : Decoder α) (j : Json) : Except Fault α := d (.ofJson j)

end Decoder
end Courier.Json
