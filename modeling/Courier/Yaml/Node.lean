import Courier.Yaml.Scanner

/-! From tokens to nodes.

    An alias names a node by a number. Numbers are given out as anchors are met, one for every name known
    so far, so an anchor of a name that is taken shares its number with the next new one; the node that
    begins last is the one meant. -/

namespace Courier.Yaml

/-- A node of a document. -/
inductive Node where
  | scalar (tag : Option Bytes) (isPlain : Bool) (text : String)
  | sequence (tag : Option Bytes) (items : List Node)
  | mapping (tag : Option Bytes) (entries : List (Node × Node))
  | alias (number : Nat)

/-- A node that aliases may stand for: its number, and how many events come before it. -/
structure Target where
  number : Nat
  start : Nat
  node : Node

/-- The state between tokens: those left, the number of every anchor's name, the nodes that anchors
    mark, the number of events so far, and what the handles of tags stand for. -/
structure Reading where
  tokens : List Token
  names : List (String × Nat)
  targets : List Target
  events : Nat
  handles : List (String × Bytes)

/-- Reading a piece of a document. -/
abbrev Piece (α : Type) := StateT Reading Option α

namespace Piece

/-- The next token, left where it is. -/
def peek : Piece Token := fun r => some (r.tokens.headD .streamEnd, r)

/-- Passes a token. -/
def pass : Piece Unit := fun r => some ((), { r with tokens := r.tokens.drop 1 })

/-- Passes a token that must be there. -/
def expect (t : Token) : Piece Unit := do
  if (← peek) == t then pass else failure

/-- Counts an event. -/
def count : Piece Unit := fun r => some ((), { r with events := r.events + 1 })

/-- A scalar that is not written. -/
def missing : Piece Node := do
  count
  return .scalar none true ""

/-- What a tag stands for. -/
def resolve (m : TagMark) : Piece Bytes := fun r =>
  if m.handle.isEmpty then some (m.suffix, r)
  else (r.handles.lookup m.handle).map fun start => (start ++ m.suffix, r)

/-- What may stand before a node: an anchor and a tag, in either order. -/
structure Properties where
  anchor : Option String
  tag : Option Bytes

/-- Reads what stands before a node. -/
def properties : Piece Properties := do
  match ← peek with
  | .anchor a =>
    pass
    match ← peek with
    | .tag m =>
      pass
      return ⟨some a, some (← resolve m)⟩
    | _ => return ⟨some a, none⟩
  | .tag m =>
    pass
    match ← peek with
    | .anchor a =>
      pass
      return ⟨some a, some (← resolve m)⟩
    | _ => return ⟨none, some (← resolve m)⟩
  | _ => return ⟨none, none⟩

/-- Gives an anchor its number, before its node is read. -/
def number (anchor : Option String) : Piece (Option (Nat × Nat)) := fun r => match anchor with
  | none => some (none, r)
  | some name =>
    let n := r.names.length
    let others := r.names.filter fun e => e.1 != name
    some (some (n, r.events), { r with names := (name, n) :: others })

/-- Remembers the node of an anchor. -/
def remember (mark : Option (Nat × Nat)) (node : Node) : Piece Unit := fun r => match mark with
  | none => some ((), r)
  | some (n, start) => some ((), { r with targets := ⟨n, start, node⟩ :: r.targets })

mutual

/-- Reads a node: in a block or on one line; `indentless` where a list need not be set in. -/
def node : Nat → Bool → Bool → Piece Node
  | 0, _, _ => failure
  | fuel + 1, inBlock, indentless => do
    match ← peek with
    | .alias name =>
      pass
      count
      let r ← get
      match r.names.lookup name with
      | some n => return .alias n
      | none => failure
    | _ =>
      let p ← properties
      let t ← peek
      let mark ← number p.anchor
      count
      let made ← (match t with
        | .scalar isPlain text => do
          pass
          return .scalar p.tag isPlain text
        | .flowSequence => do
          pass
          return .sequence p.tag (← flowItems fuel true)
        | .flowMapping => do
          pass
          return .mapping p.tag (← flowEntries fuel true)
        | _ =>
          if indentless && t == .blockEntry then do
            return .sequence p.tag (← indentlessItems fuel)
          else if inBlock && t == .blockSequence then do
            pass
            return .sequence p.tag (← blockItems fuel)
          else if inBlock && t == .blockMapping then do
            pass
            return .mapping p.tag (← blockEntries fuel)
          else if p.anchor.isSome || p.tag.isSome then return .scalar p.tag true ""
          else failure)
      remember mark made
      return made
termination_by structural fuel => fuel

/-- Reads the items of a list that is set in. -/
def blockItems : Nat → Piece (List Node)
  | 0 => failure
  | fuel + 1 => do
    match ← peek with
    | .blockEntry =>
      pass
      let t ← peek
      let item ← if t == .blockEntry || t == .blockEnd then missing else node fuel true false
      return item :: (← blockItems fuel)
    | .blockEnd =>
      pass
      count
      return []
    | _ => failure
termination_by structural fuel => fuel

/-- Reads the items of a list that is not set in. -/
def indentlessItems : Nat → Piece (List Node)
  | 0 => failure
  | fuel + 1 => do
    match ← peek with
    | .blockEntry =>
      pass
      let t ← peek
      let item ← if t == .blockEntry || t == .key || t == .value || t == .blockEnd then missing
        else node fuel true false
      return item :: (← indentlessItems fuel)
    | _ =>
      count
      return []
termination_by structural fuel => fuel

/-- Reads the entries of a block mapping. -/
def blockEntries : Nat → Piece (List (Node × Node))
  | 0 => failure
  | fuel + 1 => do
    match ← peek with
    | .key =>
      pass
      let t ← peek
      let k ← if t == .key || t == .value || t == .blockEnd then missing else node fuel true true
      let v ← (do
        match ← peek with
        | .value =>
          pass
          let t ← peek
          if t == .key || t == .value || t == .blockEnd then missing else node fuel true true
        | _ => missing)
      return (k, v) :: (← blockEntries fuel)
    | .blockEnd =>
      pass
      count
      return []
    | _ => failure
termination_by structural fuel => fuel

/-- Reads the items of a list on one line. A single entry of a mapping may stand for an item. -/
def flowItems : Nat → Bool → Piece (List Node)
  | 0, _ => failure
  | fuel + 1, first => do
    if (← peek) == .flowSequenceEnd then
      pass
      count
      return []
    else
      if !first then expect .flowEntry
      match ← peek with
      | .flowSequenceEnd =>
        pass
        count
        return []
      | .key =>
        pass
        count
        let t ← peek
        let k ← if t == .value || t == .flowEntry || t == .flowSequenceEnd then (do
            pass
            missing)
          else node fuel false false
        let v ← flowValue fuel .flowSequenceEnd
        count
        return .mapping none [(k, v)] :: (← flowItems fuel false)
      | _ =>
        let item ← node fuel false false
        return item :: (← flowItems fuel false)
termination_by structural fuel => fuel

/-- Reads the value of an entry on one line, which may be missing. -/
def flowValue : Nat → Token → Piece Node
  | 0, _ => failure
  | fuel + 1, closing => do
    match ← peek with
    | .value =>
      pass
      let t ← peek
      if t == .flowEntry || t == closing then missing else node fuel false false
    | _ => missing
termination_by structural fuel => fuel

/-- Reads the entries of a mapping on one line. -/
def flowEntries : Nat → Bool → Piece (List (Node × Node))
  | 0, _ => failure
  | fuel + 1, first => do
    if (← peek) == .flowMappingEnd then
      pass
      count
      return []
    else
      if !first then expect .flowEntry
      match ← peek with
      | .flowMappingEnd =>
        pass
        count
        return []
      | .key =>
        pass
        let t ← peek
        let k ← if t == .value || t == .flowEntry || t == .flowMappingEnd then missing
          else node fuel false false
        let v ← flowValue fuel .flowMappingEnd
        return (k, v) :: (← flowEntries fuel false)
      | _ =>
        let k ← node fuel false false
        let v ← missing
        return (k, v) :: (← flowEntries fuel false)
termination_by structural fuel => fuel

end

/-- Takes the directives of a document: each at most once, the version 1.1 or 1.2. -/
def directives : Bool → List Token → Reading → Option Reading
  | seen, .directive (.version major minor) :: ts, r =>
    if seen || major != 1 || (minor != 1 && minor != 2) then none
    else directives true ts { r with tokens := ts }
  | seen, .directive (.handle h start) :: ts, r =>
    if (r.handles.lookup h).isSome then none
    else directives seen ts { r with tokens := ts, handles := (h, start) :: r.handles }
  | _, _, r => some r

/-- The handles that every document knows, behind its own. -/
def usualHandles : List (String × Bytes) :=
  [("!", Text.bytes "!"), ("!!", Text.bytes "tag:yaml.org,2002:")]

/-- Reads the node of a document; there is none if nothing is written. -/
def document (fuel : Nat) : Piece (Option Node) := do
  match ← peek with
  | .streamEnd => return none
  | t =>
    let isExplicit := match t with
      | .directive _ => true
      | .documentStart => true
      | _ => false
    let r ← get
    match directives false r.tokens r with
    | none => failure
    | some r =>
      set { r with handles := r.handles ++ usualHandles }
      if isExplicit then
        expect .documentStart
        match ← peek with
        | .directive _ => return some (← missing)
        | .documentStart => return some (← missing)
        | .documentEnd => return some (← missing)
        | .streamEnd => return some (← missing)
        | _ => return some (← node fuel true false)
      else return some (← node fuel true false)

end Piece

/-- A document: its node, if there is one, the nodes that aliases stand for, and the number of its
    events. -/
structure Tree where
  root : Option Node
  targets : List Target
  events : Nat

/-- Reads the only document of a text. -/
def tree (tokens : List Token) : Option Tree := do
  let (root, r) ← Piece.document (4 * tokens.length + 8) ⟨tokens, [], [], 0, []⟩
  match r.tokens.dropWhile (· == .documentEnd) with
  | [.streamEnd] => return ⟨root, r.targets, r.events⟩
  | _ => none

end Courier.Yaml
