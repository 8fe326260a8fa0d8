import Courier.Json.Decoder

/-! A name out of several, read from a text.

    The name is a string, or the key of an object whose only member is null. An unknown name is placed
    right behind its quotation mark, before anything that follows it is looked at. -/

namespace Courier.Json.Choice

/-- What a name stands for among those known. -/
def pick {α : Type} (variants : List (String × α)) (name : String) (after : Cursor) : Except Fault α :=
  match variants.lookup name with
  | some v => .ok v
  | none => .error (after.fault (.unknownVariant name (variants.map (·.1))))

/-- Reads a name behind its opening quote; returns what it stands for and where to go on. -/
def name {α : Type} (variants : List (String × α)) (c : Cursor) : Except Fault (α × Cursor) := do
  let scan := c.string
  let v ← pick variants (← scan.value) scan.after
  return (v, scan.after)

/-- Passes the colon and the null behind a name. -/
def nothing (c : Cursor) : Except Fault Cursor :=
  let c := c.blanks
  match c.rest with
  | [] => .error (c.peekFault .endInObject)
  | 58 :: rest => match readValue (2 * rest.length + 2) 1 ⟨c.spot.next 58, rest⟩ with
    | (node, after) => do
      Decoder.unit node
      return after.getD c
  | _ => .error (c.peekFault .expectedColon)

/-- Reads the only member of an object, behind its brace, and the brace that closes it. -/
def member {α : Type} (variants : List (String × α)) (c : Cursor) : Except Fault (α × Cursor) :=
  let c := c.blanks
  match c.rest with
  | [] => .error (c.peekFault .endInObject)
  | 125 :: _ => .error (c.peekFault .expectedValue)
  | 34 :: rest => do
    let (v, after) ← name variants ⟨c.spot.next 34, rest⟩
    let after := (← nothing after).blanks
    match after.rest with
    | 125 :: rest => return (v, ⟨after.spot.next 125, rest⟩)
    | [] => .error (after.fault .endInObject)
    | _ => .error (after.fault .expectedValue)
  | _ => .error (c.peekFault .keyNotString)

/-- Reads a choice; no other value is looked into. -/
def read {α : Type} (variants : List (String × α)) (c : Cursor) : Except Fault (α × Cursor) :=
  let c := c.blanks
  match c.rest with
  | [] => .error (c.peekFault .endInValue)
  | 34 :: rest => name variants ⟨c.spot.next 34, rest⟩
  | 123 :: rest => member variants ⟨c.spot.next 123, rest⟩
  | _ => .error (c.peekFault .expectedValue)

/-- Reads a text that is a choice. -/
def ofBytes {α : Type} (variants : List (String × α)) (text : Bytes) : Except Fault α := do
  let (v, after) ← read variants (.start text)
  let c := after.blanks
  if c.rest.isEmpty then return v else .error (c.peekFault .trailingCharacters)

end Courier.Json.Choice
