import Courier.Json.Decoder

/-! Shapes that a caller asks a value to have, described as data.

    Reading a value by its shape gives the value back in normal form: only the fields of a record, in
    their order and with those that may be absent filled in. -/

namespace Courier.Json

/-- What stands for a field that is absent; a nullable field may be absent from an object only. -/
inductive Absent where
  | refused
  | nullable
  | filled (value : Json)

/-- The shape of a value. -/
inductive Shape where
  | any
  | unit
  | bool
  | natural (bits : Nat) (name : String)
  | signed (bits : Nat) (name : String)
  | float (name : String)
  | char
  | string
  | optional (inner : Shape)
  | list (inner : Shape)
  | dictionary (inner : Shape)
  | pair (first second : Shape)
  | record (name : String) (fields : List (String × Absent × Shape))

/-- Replaces the value of a field, where it stands. -/
def putField (name : String) (value : Json) : List (String × Json) → List (String × Json)
  | [] => []
  | (k, v) :: rest => if k == name then (k, value) :: rest else (k, v) :: putField name value rest

/-- A record before any field is read. -/
def blankFields : List (String × Absent × Shape) → List (String × Json)
  | [] => []
  | (name, .filled v, _) :: fs => (name, v) :: blankFields fs
  | (name, _, _) :: fs => (name, .null) :: blankFields fs

/-- A whole number as a value; outside 64 bits there is none. -/
def ofWhole (n : Int) : Json := match Number.ofInt? n with
  | some v => .number v
  | none => .null

namespace Shape

mutual

/-- Reads a value of the shape. -/
def decode : Shape → Decoder Json
  | .any => Decoder.json
  | .unit => fun n => (Decoder.unit n).map fun _ => .null
  | .bool => fun n => (Decoder.bool n).map .bool
  | .natural bits name => fun n => (Decoder.natural bits name n).map fun v => ofWhole v
  | .signed bits name => fun n => (Decoder.signed bits name n).map ofWhole
  | .float name => fun n => (Decoder.float name n).map fun x => .number (.float x)
  | .char => fun n => (Decoder.char n).map fun c => .string (String.ofList [c])
  | .string => fun n => (Decoder.string n).map .string
  | .optional inner => fun n => (Decoder.optional (decode inner) n).map fun v => v.getD .null
  | .list inner => fun n => (Decoder.list (decode inner) n).map .array
  | .dictionary inner => fun n =>
    (Decoder.dictionary (decode inner) n).map fun ms => .object (Members.ofList ms)
  | .pair first second => fun n =>
    (Decoder.pair (decode first) (decode second) n).map fun p => .array [p.1, p.2]
  | .record name fields => fun n =>
    (Decoder.record name (decodeFields fields) (blankFields fields) n).map .object
termination_by structural s => s

/-- The fields of a record. -/
def decodeFields : List (String × Absent × Shape) → List (Decoder.Field (List (String × Json)))
  | [] => []
  | (name, absent, shape) :: fs =>
    let field := Decoder.Field.of name true (decode shape) (putField name)
    let field := match absent with
      | .refused => field
      | .nullable => { field with required := false }
      | .filled _ => { field with required := false, requiredInList := false }
    field :: decodeFields fs
termination_by structural fs => fs

end

end Shape
end Courier.Json
