import Courier.Config.Error
import Courier.Json.Decoder

/-! Settings from several places.

    A key is a path through nested objects, its steps separated by dots. Of several providers each
    overrides those before it: objects are merged member by member, anything else replaces what was
    there. -/

namespace Courier.Config

/-- The steps of a key. -/
def steps (key : String) : List String := (key.toList.splitOn '.').map String.ofList

/-- The value at the end of a path. -/
def atPath : Json → List String → Option Json
  | j, [] => some j
  | j, k :: ks => match j.get? k with
    | some v => atPath v ks
    | none => none

/-- The value of a key. -/
def lookup (root : Json) (key : String) : Option Json := atPath root (steps key)

/-- Sets a member by what it was before, at its place in the order. -/
def updateMember (key : String) (f : Option Json → Json) : List (String × Json) → List (String × Json)
  | [] => [(key, f none)]
  | (k, v) :: rest =>
    if key == k then (k, f (some v)) :: rest
    else if key < k then (key, f none) :: (k, v) :: rest
    else (k, v) :: updateMember key f rest

mutual

/-- The second value laid over the first. -/
def merge (base : Json) : Json → Json
  | .object overlay => match base with
    | .object ms => .object (mergeMembers ms overlay)
    | _ => .object overlay
  | overlay => overlay
termination_by structural overlay => overlay

/-- Members laid over others. -/
def mergeMembers (base : List (String × Json)) : List (String × Json) → List (String × Json)
  | [] => base
  | (k, v) :: rest =>
    mergeMembers (updateMember k (fun
      | some old => merge old v
      | none => v) base) rest
termination_by structural overlay => overlay

end

/-- A source of settings. -/
structure Provider where
  name : String
  has : String → Bool
  get : String → Except ConfigError (Option Json)

/-- A provider that answers from a document. -/
def Provider.ofDocument (name : String) (root : Json) : Provider where
  name := name
  has := fun key => (lookup root key).isSome
  get := fun key => .ok (lookup root key)

/-- Reads a value in the shape that is asked for. -/
def typed {α : Type} (d : Json.Decoder α) (key : String) (j : Json) : Except ConfigError α :=
  match d.ofJson j with
  | .ok v => .ok v
  | .error f => .error (.parse ("failed to deserialize '" ++ key ++ "': " ++ f.text))

/-- Reads a value that may be missing in the shape that is asked for. -/
def typedOption {α : Type} (d : Json.Decoder α) (key : String) :
    Except ConfigError (Option Json) → Except ConfigError (Option α)
  | .error e => .error e
  | .ok none => .ok none
  | .ok (some j) => (typed d key j).map some

end Config

/-- Settings from several providers, each overriding those before it. -/
abbrev Config := List Config.Provider

namespace Config

/-- Lays what the providers say over `found`. -/
def rawFrom (key : String) : Config → Option Json → Except ConfigError (Option Json)
  | [], found => .ok found
  | p :: ps, found =>
    if p.has key then match p.get key with
      | .error e => .error e
      | .ok none => rawFrom key ps found
      | .ok (some v) => rawFrom key ps (some (match found with
        | some base => merge base v
        | none => v))
    else rawFrom key ps found

/-- The value of a key. -/
def raw (c : Config) (key : String) : Except ConfigError (Option Json) := rawFrom key c none

/-- The value of a key, in the shape that is asked for. -/
def get {α : Type} (c : Config) (d : Json.Decoder α) (key : String) : Except ConfigError (Option α) :=
  typedOption d key (c.raw key)

end Courier.Config
