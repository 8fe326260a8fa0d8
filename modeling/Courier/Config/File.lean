import Courier.Config.Basic
import Courier.Json.Reader
import Courier.Text.Letter
import Courier.Toml.Document
import Courier.Yaml.Document

/-! Settings from a file.

    The ending of the name tells the language. Whatever the language, the document must be an object. -/

namespace Courier.Config

/-- Languages of settings files. -/
inductive Format where
  | json
  | toml
  | yaml
deriving DecidableEq, Repr

namespace Format

/-- The last step of a path, if it is a name. -/
def fileName? (path : String) : Option (List Char) :=
  let parts := (path.toList.splitOn '/').filter fun p => p != [] && p != ['.']
  match parts.getLast? with
  | some ['.', '.'] => none
  | last => last

/-- What follows the last dot of a name; a dot at the start does not count. -/
def ending? (name : List Char) : Option String :=
  let back := name.reverse
  match back.dropWhile (· != '.') with
  | '.' :: _ :: _ => some (String.ofList (back.takeWhile (· != '.')).reverse)
  | _ => none

/-- The language that a path tells by its ending. -/
def ofPath? (path : String) : Option Format := do
  let name ← fileName? path
  let ending ← ending? name
  match Text.lower ending with
  | "json" => some .json
  | "toml" => some .toml
  | "yaml" => some .yaml
  | "yml" => some .yaml
  | _ => none

/-- A fault of a settings file. -/
def fault (message : String) : ConfigError := .provider "file" message

/-- The value that a text stands for. -/
def value (f : Format) (text : String) : Except ConfigError Json := match f with
  | .json => match Json.parse (Text.bytes text) with
    | .ok j => .ok j
    | .error e => .error (fault ("invalid JSON: " ++ e.text))
  | .toml => match Toml.parse text with
    | .ok j => .ok j
    | .error e => .error (fault ("invalid TOML: " ++ e.text))
  | .yaml => match Yaml.parse text with
    | .error e => .error (fault ("invalid YAML: " ++ e.text))
    | .ok v => match v.toJson with
      | .ok j => .ok j
      | .error e => .error (fault ("failed to convert YAML: " ++ e.text))

/-- Reads settings, which must be an object. -/
def parse (f : Format) (text : String) : Except ConfigError Json := do
  let j ← f.value text
  if j.isObject then return j
  else .error (fault "root configuration must be an object")

end Format

/-- Whether a step of a path leads nowhere new, or up. -/
def isIdleStep (step : List Char) : Bool := step == [] || step == ['.'] || step == ['.', '.']

/-- Whether a path, or the first name in it, has more octets than a file system takes. -/
def isTooLong (path : String) : Bool :=
  4096 ≤ (Text.bytes path).length ||
    (((path.toList.splitOn '/').dropWhile isIdleStep).head?.any fun name =>
      255 < (Text.charsBytes name).length)

/-- Why nothing can be found at a path. -/
def absence (path : String) : String :=
  if path.toList.contains '\x00' then "file name contained an unexpected NUL byte"
  else if isTooLong path then "File name too long (os error 36)"
  else "No such file or directory (os error 2)"

/-- What the file at a path holds as text, or why it cannot be read. -/
def fileText (path : String) : Option Bytes → Except String String
  | none => .error (absence path)
  | some content => match Text.decode? content with
    | some text => .ok text
    | none => .error "stream did not contain valid UTF-8"

/-- A provider that answers from a file; `content` is what the file holds, if it exists. -/
def Provider.ofFile (path : String) (content : Option Bytes) : Except ConfigError Provider :=
  match Format.ofPath? path with
  | none => .error (Format.fault "unsupported file format")
  | some format => match fileText path content with
    | .error why => .error (Format.fault ("failed to read " ++ path ++ ": " ++ why))
    | .ok text => do
      let root ← format.parse text
      return .ofDocument "file" root

/-- Settings from a single file. -/
def ofFile (path : String) (content : Option Bytes) : Except ConfigError Config := do
  let p ← Provider.ofFile path content
  return [p]

end Courier.Config
