import Courier.Toml.Scalar

/-! Tables under construction.

    A table may be written in several places: under its own header, as a step on the way to another
    header, or through dotted keys. How it came to be decides what may still be added to it. A table whose
    first key is the name of a moment stands for that moment. -/

namespace Courier.Toml

/-- How a table came to be: by its own header, as a step of another header, or by a dotted key. -/
inductive Origin where
  | header
  | step
  | dotted
deriving DecidableEq, Repr

/-- What a key stands for: a single value, a list, a table on one line, a table that may still grow, or a
    list of such tables with the last one first. -/
inductive Entry where
  | value (value : Json)
  | list (items : List Entry)
  | closed (entries : List (String × Entry))
  | table (origin : Origin) (entries : List (String × Entry))
  | tables (tables : List (List (String × Entry)))

/-- The entries of a table. -/
abbrev Entries := List (String × Entry)

namespace Entries

/-- Sets the entry of a key by what it was before. -/
def update (key : String) (f : Option Entry → Option Entry) : Entries → Option Entries
  | [] => (f none).map fun e => [(key, e)]
  | (k, e) :: rest =>
    if k == key then (f (some e)).map fun e => (key, e) :: rest
    else (update key f rest).map fun rest => (k, e) :: rest

/-- Adds to the table at the end of a path. Missing tables come to be on the way; of a list of tables
    the last one is meant. A dotted key does not reach into a table that has its own header. -/
def within (dotted : Bool) (f : Origin → Entries → Option Entries) :
    List String → Origin → Entries → Option Entries
  | [], origin, es => f origin es
  | k :: ks, _, es => update k (fun
    | none =>
      let origin := if dotted then .dotted else .step
      (within dotted f ks origin []).map (.table origin)
    | some (.table origin inner) =>
      if dotted && origin == .header then none
      else (within dotted f ks origin inner).map (.table origin)
    | some (.tables []) => none
    | some (.tables (last :: earlier)) =>
      (within dotted f ks .header last).map fun last => .tables (last :: earlier)
    | some _ => none) es

/-- Sets a key that has no entry yet. -/
def define (key : String) (value : Entry) (es : Entries) : Option Entries := update key (fun
  | none => some value
  | some _ => none) es

/-- Sets a dotted key. A table reached through dots must have come to be through dots. -/
def assign (path : List String) (key : String) (value : Entry) (es : Entries) : Option Entries :=
  within true (fun origin inner =>
    if (origin == .dotted) == path.isEmpty then none else define key value inner) path .header es

/-- Sets a dotted key in the table under a header. -/
def assignUnder (header path : List String) (key : String) (value : Entry) (es : Entries) :
    Option Entries :=
  within false (fun _ inner => assign path key value inner) header .header es

/-- Opens the table of a header. It must be new, or so far only a step of other headers; in that case it
    moves behind the other entries. -/
def openTable (path : List String) (key : String) (es : Entries) : Option Entries :=
  within false (fun _ inner => match inner.lookup key with
    | none => some (inner ++ [(key, .table .header [])])
    | some (.table .step entries) =>
      some ((inner.filter fun e => e.1 != key) ++ [(key, .table .header entries)])
    | some _ => none) path .header es

/-- Opens one more table of a list. -/
def openListed (path : List String) (key : String) (es : Entries) : Option Entries :=
  within false (fun _ inner => update key (fun
    | none => some (.tables [[]])
    | some (.tables ts) => some (.tables ([] :: ts))
    | some _ => none) inner) path .header es

/-- A table with the given members as JSON. If its first key is the name of a moment, it is the moment that
    the entry says, and a fault if it says none. -/
def tableJson (es : Entries) (members : Option (List (String × Json))) : Option Json :=
  let plain := members.map fun ms => .object (Members.ofList ms)
  match es with
  | (k, .value (.string text)) :: _ => if k == momentName then momentOf? text else plain
  | (k, _) :: _ => if k == momentName then none else plain
  | [] => plain

mutual

/-- An entry as JSON. -/
def entryJson : Entry → Option Json
  | .value v => some v
  | .list items => (itemsJson items).map .array
  | .closed es => tableJson es (membersJson es)
  | .table _ es => tableJson es (membersJson es)
  | .tables ts => (tablesJson ts).map fun items => .array items.reverse
termination_by structural e => e

/-- Items as JSON. -/
def itemsJson : List Entry → Option (List Json)
  | [] => some []
  | e :: es => do
    let j ← entryJson e
    let js ← itemsJson es
    return j :: js
termination_by structural es => es

/-- Entries as members. -/
def membersJson : List (String × Entry) → Option (List (String × Json))
  | [] => some []
  | (k, e) :: es => do
    let j ← entryJson e
    let ms ← membersJson es
    return (k, j) :: ms
termination_by structural es => es

/-- Tables as JSON. -/
def tablesJson : List (List (String × Entry)) → Option (List Json)
  | [] => some []
  | t :: ts => do
    let j ← tableJson t (membersJson t)
    let js ← tablesJson ts
    return j :: js
termination_by structural ts => ts

end

/-- A table as JSON. -/
def toJson (es : Entries) : Option Json := tableJson es (membersJson es)

end Entries
end Courier.Toml
