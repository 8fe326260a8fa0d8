import Courier.Binary64.Printer
import Courier.Power

/-! JSON values.

    Numbers that fit 64 bits, signed or unsigned, are whole; all others are doubles. The members of an
    object are kept in the order of their keys, each key once. -/

namespace Courier

/-- Whether 64 bits, signed or unsigned, hold the number. -/
def IsWord (n : Int) : Prop := -(twoTo 63 : Int) ≤ n ∧ n < twoTo 64

instance (n : Int) : Decidable (IsWord n) := inferInstanceAs (Decidable (_ ∧ _))

/-- A JSON number. -/
inductive Number where
  | whole (value : Int) (isWord : IsWord value)
  | float (value : Binary64)
deriving DecidableEq

/-- A JSON value. -/
inductive Json where
  | null
  | bool (value : Bool)
  | number (value : Number)
  | string (value : String)
  | array (items : List Json)
  | object (members : List (String × Json))

namespace Number

/-- The whole number, if it is one of 64 bits. -/
def ofInt? (n : Int) : Option Number := if h : IsWord n then some (.whole n h) else none

/-- A natural number of 64 bits; greater ones are rounded to a double, the greatest to zero. -/
def ofNat (n : Nat) : Number := match ofInt? n with
  | some w => w
  | none => .float ((Binary64.ofNat false n).getD (Binary64.zero false))

/-- The text of a number. -/
def text : Number → String
  | .whole n _ => toString n
  | .float x => x.text

end Number

namespace Json

instance : Inhabited Json := ⟨.null⟩

/-- A natural number as a value. -/
def ofNat (n : Nat) : Json := .number (.ofNat n)

/-- The members, if the value is an object. -/
def members? : Json → Option (List (String × Json))
  | .object ms => some ms
  | _ => none

/-- Whether the value is an object. -/
def isObject (j : Json) : Bool := j.members?.isSome

/-- The text, if the value is a string. -/
def string? : Json → Option String
  | .string s => some s
  | _ => none

end Json

/-- The value of a member. -/
def Members.get? (key : String) : List (String × Json) → Option Json
  | [] => none
  | (k, v) :: rest => if k == key then some v else Members.get? key rest

/-- Sets a member at its place in the order, replacing an earlier value. -/
def Members.insert (key : String) (value : Json) : List (String × Json) → List (String × Json)
  | [] => [(key, value)]
  | (k, v) :: rest =>
    if key == k then (key, value) :: rest
    else if key < k then (key, value) :: (k, v) :: rest
    else (k, v) :: Members.insert key value rest

/-- Members in the order of their keys; of equal keys the last one stays. -/
def Members.ofList (ms : List (String × Json)) : List (String × Json) :=
  ms.foldl (fun acc m => Members.insert m.1 m.2 acc) []

/-- A member of a value that is an object. -/
def Json.get? (j : Json) (key : String) : Option Json := match j with
  | .object ms => Members.get? key ms
  | _ => none

/-- The empty object. -/
def Json.emptyObject : Json := .object []

end Courier
