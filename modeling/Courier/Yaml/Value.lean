import Courier.Yaml.Node
import Courier.Yaml.Number

/-! From nodes to values.

    A plain scalar without a tag is what it looks like; a tag of the language's own makes it what the tag
    says, and a local tag stays with its value. The keys of a mapping differ. -/

namespace Courier.Yaml

/-- A value. -/
inductive Value where
  | null
  | bool (value : Bool)
  | number (value : Numeric)
  | string (value : String)
  | sequence (items : List Value)
  | mapping (entries : List (Value × Value))
  | tagged (tag : String) (value : Value)

/-- Whether two numbers are the same; zero has no sign here. -/
def Numeric.same : Numeric → Numeric → Bool
  | .number (.float x), .number (.float y) => x == y || (x.isZero && y.isZero)
  | a, b => a == b

/-- A local tag without the mark before it. -/
def bareTag (tag : String) : String := match tag.toList with
  | '!' :: c :: cs => String.ofList (c :: cs)
  | _ => tag

namespace Value

mutual

/-- Whether two values are the same; the order of a mapping does not matter. -/
def same : Value → Value → Bool
  | .null, .null => true
  | .bool a, .bool b => a == b
  | .number a, .number b => a.same b
  | .string a, .string b => a == b
  | .sequence as, .sequence bs => as.length == bs.length && allSame as bs
  | .mapping as, .mapping bs => as.length == bs.length && allIn as bs
  | .tagged t a, .tagged u b => bareTag t == bareTag u && same a b
  | _, _ => false
termination_by structural a => a

/-- Whether the items of two lists are the same, one by one. -/
def allSame : List Value → List Value → Bool
  | [], _ => true
  | a :: as, b :: bs => same a b && allSame as bs
  | _ :: _, [] => false
termination_by structural as => as

/-- Whether all entries are among others. -/
def allIn : List (Value × Value) → List (Value × Value) → Bool
  | [], _ => true
  | (k, v) :: as, bs => (bs.any fun e => same k e.1 && same v e.2) && allIn as bs
termination_by structural as => as

end

/-- Why a value cannot be written as JSON. -/
inductive KeyFault where
  | notText
  | notFinite
deriving DecidableEq, Repr

/-- The fault in words. -/
def KeyFault.text : KeyFault → String
  | .notText => "key must be a string"
  | .notFinite => "float key must be finite (got NaN or +/-inf)"

/-- A key as text. -/
def keyText : Value → Except KeyFault String
  | .string s => .ok s
  | .bool b => .ok (if b then "true" else "false")
  | .number (.number n) => .ok n.text
  | .number _ => .error .notFinite
  | _ => .error .notText

mutual

/-- A value as JSON, where a number without an end is null. -/
def toJson : Value → Except KeyFault Json
  | .null => .ok .null
  | .bool b => .ok (.bool b)
  | .number (.number n) => .ok (.number n)
  | .number _ => .ok .null
  | .string s => .ok (.string s)
  | .sequence items => (itemsJson items).map .array
  | .mapping entries => (entriesJson entries).map fun ms => .object (Members.ofList ms)
  | .tagged t v => (toJson v).map fun j => .object [("!" ++ bareTag t, j)]
termination_by structural v => v

/-- Items as JSON. -/
def itemsJson : List Value → Except KeyFault (List Json)
  | [] => .ok []
  | v :: vs => do
    let j ← toJson v
    let js ← itemsJson vs
    return j :: js
termination_by structural vs => vs

/-- Entries as members. -/
def entriesJson : List (Value × Value) → Except KeyFault (List (String × Json))
  | [] => .ok []
  | (k, v) :: es => do
    let name ← keyText k
    let j ← toJson v
    let ms ← entriesJson es
    return (name, j) :: ms
termination_by structural es => es

end
end Value

/-- The truth value of a text. -/
def truth? (text : String) : Option Bool :=
  if text == "true" || text == "True" || text == "TRUE" then some true
  else if text == "false" || text == "False" || text == "FALSE" then some false
  else none

/-- Whether a text says that there is nothing. -/
def saysNull (text : String) : Bool := text == "null" || text == "Null" || text == "NULL" || text == "~"

/-- A number as a value, if it can be kept. -/
def numberValue? (n : Numeric) : Option Value := if n == .tooGreat then none else some (.number n)

/-- What a plain text stands for. -/
def plainValue? (text : String) : Option Value :=
  if text.isEmpty || saysNull text then some .null
  else match truth? text with
    | some b => some (.bool b)
    | none => match numeric? text with
      | some n => numberValue? n
      | none => some (.string text)

/-- The tags of the language begin with this. -/
def coreTag (name : String) : Bytes := Text.bytes ("tag:yaml.org,2002:" ++ name)

/-- Whether a tag begins with an exclamation mark. -/
def isLocal (tag : Bytes) : Bool := tag.head? == some 33

/-- What a scalar stands for by its tag, or else by its look. -/
def scalarValue? (tag : Option Bytes) (isPlain : Bool) (text : String) : Option Value :=
  let untold := if isPlain then plainValue? text else some (.string text)
  match tag with
  | none => untold
  | some t =>
    if t == coreTag "bool" then (truth? text).map .bool
    else if t == coreTag "int" then
      ((whole? text.toList).map Numeric.ofWhole).bind numberValue?
    else if t == coreTag "float" then (real? text.toList).map .number
    else if t == coreTag "null" then if saysNull text then some .null else none
    else if isLocal t then untold
    else some (.string text)

/-- The local tag that a tag is: it has an exclamation mark in front, dropped here unless it is all. One
    that is no text does not count. -/
def localTag? (tag : Option Bytes) : Option String := match tag with
  | some [33] => some "!"
  | some (33 :: octets) => Text.decode? octets
  | _ => none

/-- Following aliases: how many may still be followed. -/
abbrev Following (α : Type) := StateT Nat Option α

/-- The node that an alias stands for. -/
def target? (targets : List Target) (number : Nat) : Option Node :=
  let fit := targets.filter fun t => t.number == number
  (fit.foldl (fun best t => match best with
    | none => some t
    | some b => if b.start < t.start then some t else some b) none).map (·.node)

/-- The node itself, or the one that an alias stands for. -/
def follow (targets : List Target) : Node → Following Node
  | .alias number => do
    let left ← get
    match left with
    | 0 => failure
    | left + 1 =>
      set left
      match target? targets number with
      | some n => return n
      | none => failure
  | n => return n

/-- Adds an entry with a key that is new. -/
def addEntry (k v : Value) (entries : List (Value × Value)) : List (Value × Value) := entries ++ [(k, v)]

/-- The value of a node that `depth` collections may still enclose. -/
def valueOf (targets : List Target) : Nat → Node → Following Value := fun depth n => do
  let wrap (tag : Option Bytes) (v : Value) : Following Value := match localTag? tag with
    | none => return v
    | some t => return .tagged t v
  match ← follow targets n with
  | .alias _ => failure
  | .scalar tag isPlain text =>
    match scalarValue? tag isPlain text with
    | some v => wrap tag v
    | none => failure
  | .sequence tag items => match depth with
    | 0 => failure
    | depth + 1 =>
      let vs ← items.mapM (valueOf targets depth)
      wrap tag (.sequence vs)
  | .mapping tag entries => match depth with
    | 0 => failure
    | depth + 1 =>
      let es ← entries.foldlM (fun done (e : Node × Node) => do
        let k ← valueOf targets depth e.1
        if done.any fun d => Value.same k d.1 then failure
        else
          let v ← valueOf targets depth e.2
          return addEntry k v done) []
      wrap tag (.mapping es)

end Courier.Yaml
