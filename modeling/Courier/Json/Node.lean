import Courier.Json.Fault

/-! A JSON text taken apart, before anyone asks for a shape.

    A `Node` keeps, beside each value, the places that faults name. What is wrong with the text stays in
    the tree where it stands, so that a reader who walks the tree from left to right meets the faults of
    the text and its own in one order. A value that nobody asks for is only skipped: skipping looks at
    the grammar, not at number ranges, surrogates or nesting, and so may pass what reading refuses. -/

namespace Courier.Json

/-- A value without parts. -/
inductive Scalar where
  | null
  | bool (value : Bool)
  | number (value : Number)
  | string (value : String)
deriving DecidableEq

/-- The key of a member: its text, what skipping it meets, and the place a reader names who refuses it. -/
structure Key where
  value : Except Fault String
  skip : Option Fault
  after : Mark

/-- How a list or an object ends. -/
inductive Close where
  | closed (after : Mark)
  | broken (read skip : Fault)
  | unreached

/-- A value of the text. `peek` is just after its first byte, `after` just after its last. -/
inductive Node where
  | scalar (peek after : Mark) (value : Except Fault Scalar) (skip : Option Fault)
  | array (start peek : Mark) (entry : Option Fault) (items : List Node) (close : Close)
  | object (start peek : Mark) (entry : Option Fault) (members : List (Key × Node)) (close : Close)
  | hole (peek : Mark) (fault : Fault)

/-- A whole text: its value, and what is wrong behind it. -/
structure Document where
  root : Node
  trailing : Option Fault

/-- The value of a scalar. -/
def Scalar.toJson : Scalar → Json
  | .null => .null
  | .bool b => .bool b
  | .number n => .number n
  | .string s => .string s

/-- Reading needs an end. -/
def Close.read : Close → Except Fault Unit
  | .broken read _ => .error read
  | _ => .ok ()

/-- Skipping needs an end. -/
def Close.skip : Close → Except Fault Unit
  | .broken _ skip => .error skip
  | _ => .ok ()

/-- A fault, if there is one. -/
def check : Option Fault → Except Fault Unit
  | some f => .error f
  | none => .ok ()

namespace Node

mutual

/-- The value as a whole. -/
def toJson : Node → Except Fault Json
  | .scalar _ _ value _ => value.map Scalar.toJson
  | .array _ _ entry items close => do
    check entry
    let js ← itemsToJson items
    close.read
    return .array js
  | .object _ _ entry members close => do
    check entry
    let ms ← membersToJson members
    close.read
    return .object (Members.ofList ms)
  | .hole _ fault => .error fault
termination_by structural n => n

/-- The items, each as a whole. -/
def itemsToJson : List Node → Except Fault (List Json)
  | [] => .ok []
  | n :: ns => do
    let j ← toJson n
    let js ← itemsToJson ns
    return j :: js
termination_by structural ns => ns

/-- The members, each as a whole, in the order of the text. -/
def membersToJson : List (Key × Node) → Except Fault (List (String × Json))
  | [] => .ok []
  | (k, n) :: ms => do
    let name ← k.value
    let j ← toJson n
    let js ← membersToJson ms
    return (name, j) :: js
termination_by structural ms => ms

end

mutual

/-- Passes over the value. -/
def skip : Node → Except Fault Unit
  | .scalar _ _ _ fault => check fault
  | .array _ _ _ items close => do
    skipItems items
    close.skip
  | .object _ _ _ members close => do
    skipMembers members
    close.skip
  | .hole _ fault => .error fault
termination_by structural n => n

/-- Passes over the items. -/
def skipItems : List Node → Except Fault Unit
  | [] => .ok ()
  | n :: ns => do
    skip n
    skipItems ns
termination_by structural ns => ns

/-- Passes over the members. -/
def skipMembers : List (Key × Node) → Except Fault Unit
  | [] => .ok ()
  | (k, n) :: ms => do
    check k.skip
    skip n
    skipMembers ms
termination_by structural ms => ms

end

mutual

/-- A value in memory as a node without places. -/
def ofJson : Json → Node
  | .null => .scalar none none (.ok .null) none
  | .bool b => .scalar none none (.ok (.bool b)) none
  | .number n => .scalar none none (.ok (.number n)) none
  | .string s => .scalar none none (.ok (.string s)) none
  | .array items => .array none none none (ofItems items) (.closed none)
  | .object members => .object none none none (ofMembers members) (.closed none)
termination_by structural j => j

/-- Items in memory. -/
def ofItems : List Json → List Node
  | [] => []
  | j :: js => ofJson j :: ofItems js
termination_by structural js => js

/-- Members in memory. -/
def ofMembers : List (String × Json) → List (Key × Node)
  | [] => []
  | (k, j) :: ms => (⟨.ok k, none, none⟩, ofJson j) :: ofMembers ms
termination_by structural ms => ms

end

/-- The place just after the first byte of the value. -/
def peek : Node → Mark
  | .scalar p _ _ _ => p
  | .array _ p _ _ _ => p
  | .object _ p _ _ _ => p
  | .hole p _ => p

end Node

/-- The value of a text. -/
def Document.toJson (d : Document) : Except Fault Json := do
  let j ← d.root.toJson
  check d.trailing
  return j

end Courier.Json
