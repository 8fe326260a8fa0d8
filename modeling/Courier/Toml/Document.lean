import Courier.Toml.Scalar
import Courier.Toml.Table

/-! Documents in TOML 1.0, read as JSON. -/

namespace Courier.Toml

open Courier.Text (Piece)

/-- A document that cannot be read: the number of the line that shows it. -/
structure Fault where
  line : Nat
deriving DecidableEq, Repr

/-- The fault in words. -/
def Fault.text (f : Fault) : String := "TOML parse error at line " ++ toString f.line

/-- A path and its last step. -/
def parent (path : List String) : List String × String := (path.dropLast, path.getLastD "")

mutual

/-- Reads a value; `depth` tells how many lists and tables may still open. -/
def value : Nat → Nat → Piece Entry
  | 0, _ => failure
  | fuel + 1, depth => do
    match ← Piece.peek with
    | some '"' => return .value (.string (← string))
    | some '\x27' => return .value (.string (← string))
    | some 't' =>
      Piece.exactly "true"
      return .value (.bool true)
    | some 'f' =>
      Piece.exactly "false"
      return .value (.bool false)
    | some '[' => match depth with
      | 0 => failure
      | depth + 1 =>
        Piece.exactly "["
        items fuel depth []
    | some '\x7b' => match depth with
      | 0 => failure
      | depth + 1 =>
        Piece.exactly "\x7b"
        blanks
        match ← Piece.peek with
        | some '\x7d' =>
          Piece.exactly "\x7d"
          return .closed []
        | _ => assignments fuel depth []
    | _ => return .value (← numberOrMoment)
termination_by structural fuel => fuel

/-- Reads the items of a list; `done` holds those before, the last one first. -/
def items : Nat → Nat → List Entry → Piece Entry
  | 0, _, _ => failure
  | fuel + 1, depth, done => do
    gap
    match ← Piece.peek with
    | some ']' =>
      Piece.exactly "]"
      return .list done.reverse
    | _ =>
      let v ← value fuel depth
      gap
      match ← Piece.one fun c => c == ',' || c == ']' with
      | ',' => items fuel depth (v :: done)
      | _ => return .list (v :: done).reverse
termination_by structural fuel => fuel

/-- Reads the assignments of a table on one line. -/
def assignments : Nat → Nat → Entries → Piece Entry
  | 0, _, _ => failure
  | fuel + 1, depth, done => do
    let (path, k) := parent (← key)
    Piece.exactly "="
    blanks
    let v ← value fuel depth
    blanks
    match Entries.assign path k v done with
    | none => failure
    | some done => match ← Piece.one fun c => c == ',' || c == '\x7d' with
      | ',' => assignments fuel depth done
      | _ => return .closed done
termination_by structural fuel => fuel

end

/-- The state between the lines: the table of the last header, and all entries so far. -/
structure Draft where
  header : List String
  entries : Entries

/-- Reads a header or an assignment. -/
def line (d : Draft) : Piece Draft := do
  match ← Piece.peek with
  | some '[' =>
    Piece.exactly "["
    let listed ← Piece.optional (Piece.exactly "[")
    let path ← key
    Piece.exactly (if listed.isSome then "]]" else "]")
    restOfLine
    let (before, k) := parent path
    let opened := if listed.isSome then d.entries.openListed before k else d.entries.openTable before k
    match opened with
    | some es => return ⟨path, es⟩
    | none => failure
  | _ =>
    let path ← key
    Piece.exactly "="
    blanks
    let v ← fun text => value (2 * text.length + 2) maxDepth text
    restOfLine
    let (before, k) := parent path
    match d.entries.assignUnder d.header before k v with
    | some es => return { d with entries := es }
    | none => failure

/-- Reads all lines; `total` counts those of the whole text. -/
def lines (total : Nat) : Nat → Draft → List Char → Except Fault Entries
  | 0, d, _ => .ok d.entries
  | fuel + 1, d, text =>
    let text := text.dropWhile isBlank
    let fault : Fault := ⟨total - text.count '\n' + 1⟩
    match text with
    | [] => .ok d.entries
    | c :: _ =>
      if c == '\n' || c == '\r' || c == '#' then match restOfLine text with
        | some (_, rest) => lines total fuel d rest
        | none => .error fault
      else match line d text with
        | some (d, rest) => lines total fuel d rest
        | none => .error fault

/-- Reads a document. -/
def parse (text : String) : Except Fault Json :=
  let cs := match text.toList with
    | '\uFEFF' :: cs => cs
    | cs => cs
  match lines (cs.count '\n') (cs.length + 1) ⟨[], []⟩ cs with
  | .ok es => match es.toJson with
    | some v => .ok v
    | none => .error ⟨1⟩
  | .error f => .error f

end Courier.Toml
