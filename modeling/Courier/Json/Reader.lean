import Courier.Json.Numeral
import Courier.Json.Quote

/-! From text to nodes.

    The text is read once, from the left, into the tree of its values; where the grammar is left the
    tree ends in a hole or a broken container. Containers nested deeper than 127 are marked. -/

namespace Courier.Json

/-- Containers nest at most this deep. -/
def maxDepth : Nat := 127

/-- A node without parts, and where to go on if its end was found. -/
def ofScan {α : Type} (peek : Spot) (scan : Scan α) (f : α → Scalar) : Node × Option Cursor :=
  (.scalar (some peek) (some scan.after.spot) (scan.value.map f) scan.skip,
    if scan.skip.isSome then none else some scan.after)

/-- A place without a value. -/
def hole (c : Cursor) (cause : Cause) : Node := .hole (some c.peek) (c.peekFault cause)

/-- Entering a container under `level` others. -/
def entry (level : Nat) (c : Cursor) : Option Fault :=
  if level < maxDepth then none else some (c.peekFault .tooDeep)

/-- A container that ends in a fault both for readers and for those who skip. -/
def brokenAt (c : Cursor) (cause : Cause) : Close := .broken (c.peekFault cause) (c.peekFault cause)

/-- The place that a reader names who refuses a key: behind the blanks that follow it, and behind the
    closing brace if one is there. -/
def afterKey (c : Cursor) : Mark := match c.rest with
  | 125 :: _ => some c.peek
  | _ => some c.spot

mutual

/-- Reads a value; blanks before it are passed. -/
def readValue : Nat → Nat → Cursor → Node × Option Cursor
  | 0, _, c => (hole c .expectedValue, none)
  | fuel + 1, level, c0 =>
    let c := c0.blanks
    match c.rest with
    | [] => (hole c .endInValue, none)
    | b :: rest =>
      let next : Cursor := ⟨c.spot.next b, rest⟩
      if b == 110 then ofScan c.peek (word Scalar.null next.spot [117, 108, 108] rest) id
      else if b == 116 then ofScan c.peek (word (Scalar.bool true) next.spot [114, 117, 101] rest) id
      else if b == 102 then
        ofScan c.peek (word (Scalar.bool false) next.spot [97, 108, 115, 101] rest) id
      else if b == 45 then ofScan c.peek (Numeral.read true next) .number
      else if (Numeral.digit? b).isSome then ofScan c.peek (Numeral.read false c) .number
      else if b == 34 then ofScan c.peek next.string .string
      else if b == 91 then
        let (items, close, after) := readItems fuel (level + 1) true next
        (.array (some c.spot) (some c.peek) (entry level c) items close, after)
      else if b == 123 then
        let (members, close, after) := readMembers fuel (level + 1) true next
        (.object (some c.spot) (some c.peek) (entry level c) members close, after)
      else (hole c .expectedValue, none)
termination_by structural fuel => fuel

/-- Reads the items of a list behind its bracket, or behind an item. -/
def readItems : Nat → Nat → Bool → Cursor → List Node × Close × Option Cursor
  | 0, _, _, c => ([], brokenAt c .endInList, none)
  | fuel + 1, level, first, c0 =>
    let c := c0.blanks
    let item (c : Cursor) : List Node × Close × Option Cursor :=
      match readValue fuel level c with
      | (node, none) => ([node], .unreached, none)
      | (node, some after) =>
        let (nodes, close, stop) := readItems fuel level false after
        (node :: nodes, close, stop)
    match c.rest with
    | [] => ([], brokenAt c .endInList, none)
    | b :: rest =>
      let next : Cursor := ⟨c.spot.next b, rest⟩
      if b == 93 then ([], .closed (some next.spot), some next)
      else if first then item c
      else if b == 44 then
        let here := next.blanks
        match here.rest with
        | 93 :: _ => ([], .broken (here.peekFault .trailingComma) (here.peekFault .expectedValue), none)
        | _ => item here
      else ([], brokenAt c .expectedListCommaOrEnd, none)
termination_by structural fuel => fuel

/-- Reads the members of an object behind its brace, or behind a member. -/
def readMembers : Nat → Nat → Bool → Cursor → List (Key × Node) × Close × Option Cursor
  | 0, _, _, c => ([], brokenAt c .endInObject, none)
  | fuel + 1, level, first, c0 =>
    let c := c0.blanks
    let member (rest : Bytes) (c : Cursor) : List (Key × Node) × Close × Option Cursor :=
      let scan := (Cursor.mk (c.spot.next 34) rest).string
      let colon := scan.after.blanks
      let key : Key := ⟨scan.value, scan.skip, afterKey colon⟩
      if scan.skip.isSome then ([(key, hole colon .expectedColon)], .unreached, none)
      else match colon.rest with
        | [] => ([(key, hole colon .endInObject)], .unreached, none)
        | b :: rest =>
          if b == 58 then match readValue fuel level ⟨colon.spot.next b, rest⟩ with
            | (node, none) => ([(key, node)], .unreached, none)
            | (node, some after) =>
              let (more, close, stop) := readMembers fuel level false after
              ((key, node) :: more, close, stop)
          else ([(key, hole colon .expectedColon)], .unreached, none)
    match c.rest with
    | [] => ([], brokenAt c .endInObject, none)
    | b :: rest =>
      let next : Cursor := ⟨c.spot.next b, rest⟩
      if b == 125 then ([], .closed (some next.spot), some next)
      else if first then
        if b == 34 then member rest c else ([], brokenAt c .keyNotString, none)
      else if b == 44 then
        let here := next.blanks
        match here.rest with
        | [] => ([], .broken (here.fault .endInValue) (here.fault .endInObject), none)
        | 34 :: more => member more here
        | 125 :: _ =>
          ([], .broken (here.peekFault .trailingComma) (here.peekFault .keyNotString), none)
        | _ => ([], brokenAt here .keyNotString, none)
      else ([], brokenAt c .expectedObjectCommaOrEnd, none)
termination_by structural fuel => fuel

end

/-- Takes a text apart. Each byte is met by at most two nested calls. -/
def Document.ofBytes (text : Bytes) : Document :=
  match readValue (2 * text.length + 2) 0 (.start text) with
  | (root, none) => ⟨root, none⟩
  | (root, some after) =>
    let c := after.blanks
    ⟨root, if c.rest.isEmpty then none else some (c.peekFault .trailingCharacters)⟩

/-- The value of a text of bytes. -/
def parse (text : Bytes) : Except Fault Json := (Document.ofBytes text).toJson

end Courier.Json
