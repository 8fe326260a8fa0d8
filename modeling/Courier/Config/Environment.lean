import Courier.Config.Basic
import Courier.Json.Reader
import Courier.Text.Letter
import Courier.Text.Piece

/-! Settings from environment variables.

    `APP__FEIGN__CLIENT__ORDERS__TARGET`, loaded with the prefix `APP`, sets
    `feign.client.orders.target`: two underscores part the steps, single ones stay, letters become
    small. A value that is JSON is taken as such, any other text as a string. -/

namespace Courier.Config

/-- The parts of a text between pairs of underscores, found from the left. -/
def partsBetweenMarks : List Char → List Char → List (List Char)
  | part, [] => [part.reverse]
  | part, '_' :: '_' :: rest => part.reverse :: partsBetweenMarks [] rest
  | part, c :: rest => partsBetweenMarks (c :: part) rest

/-- The path that the rest of a variable's name stands for: its parts in small letters, empty ones
    dropped. -/
def variableSteps (rest : List Char) : List String :=
  ((partsBetweenMarks [] rest).filter fun p => !p.isEmpty).map fun p => Text.lower (String.ofList p)

/-- The path of a variable that belongs to the prefix; empty if it names no step. -/
def variablePath (start name : String) : Option (List String) :=
  (Text.behind (start.toList ++ ['_', '_']) name.toList).map variableSteps

/-- Puts a value at the end of a path; whatever is in the way becomes an object. -/
def place (value : Json) : List String → Json → Json
  | [], _ => value
  | k :: ks, root =>
    .object (updateMember k (fun old => place value ks (old.getD .emptyObject)) (root.members?.getD []))

/-- The value that the text of a variable stands for. -/
def variableValue (text : String) : Json := match Json.parse (Text.bytes text) with
  | .ok j => j
  | .error _ => .string text

/-- Adds one variable to the settings. -/
def addVariable (start : String) (root : Json) (entry : String × String) : Json :=
  match variablePath start entry.1 with
  | some (k :: ks) => place (variableValue entry.2) (k :: ks) root
  | _ => root

/-- The settings of all variables, taken in their order. -/
def environment (start : String) (entries : List (String × String)) : Json :=
  entries.foldl (addVariable start) .emptyObject

/-- Sets a variable: one that is set already keeps its place. -/
def setVariable (name text : String) : List (String × String) → List (String × String)
  | [] => [(name, text)]
  | (n, t) :: rest => if n == name then (n, text) :: rest else (n, t) :: setVariable name text rest

/-- The variables of a process in which these were set one after another. -/
def assigned (entries : List (String × String)) : List (String × String) :=
  entries.foldl (fun set e => setVariable e.1 e.2 set) []

/-- A provider that answers from environment variables. -/
def Provider.ofEnvironment (start : String) (entries : List (String × String)) : Provider :=
  .ofDocument "env" (environment start entries)

end Courier.Config
