import Courier.Interceptor.Basic
import Courier.Json.Decoder

/-! Header fields that every request gets or loses.

    Names to remove go first; then fields are set in place of those a request has; last come defaults
    for names that a request lacks. -/

namespace Courier.Interceptor

/-- What to do to the header fields of a request, as configured. -/
structure HeaderConfig where
  set : List (String × String)
  defaults : List (String × String)
  remove : List String
deriving DecidableEq, Repr

namespace HeaderConfig

/-- Nothing to do. -/
def none : HeaderConfig := ⟨[], [], []⟩

/-- A dictionary with each key once, the last value of a key. -/
def dictionary : Json.Decoder (List (String × String)) := fun n =>
  (Json.Decoder.dictionary Json.Decoder.string n).map fun ms =>
    ms.foldl (fun acc m => (acc.filter fun e => e.1 != m.1) ++ [m]) []

/-- Reads a configuration. -/
def decoder : Json.Decoder HeaderConfig :=
  Json.Decoder.record "HeaderInterceptorConfig" [
    .of "set" false dictionary fun v c => { c with set := v },
    .of "defaults" false dictionary fun v c => { c with defaults := v },
    .of "remove" false (Json.Decoder.list Json.Decoder.string) fun v c => { c with remove := v }] none

/-- A dictionary as JSON. -/
def dictionaryJson (ms : List (String × String)) : Json :=
  .object (Members.ofList (ms.map fun m => (m.1, .string m.2)))

/-- A configuration as JSON. -/
def toJson (c : HeaderConfig) : Json :=
  .object (Members.ofList [
    ("set", dictionaryJson c.set), ("defaults", dictionaryJson c.defaults),
    ("remove", .array (c.remove.map .string))])

end HeaderConfig

/-- What to do to the header fields of a request. -/
structure HeaderEdits where
  set : List (Http.HeaderName × Http.HeaderValue)
  defaults : List (Http.HeaderName × Http.HeaderValue)
  remove : List Http.HeaderName

namespace HeaderEdits

/-- Reads fields out of texts. -/
def parseFields (fields : List (String × String)) :
    Except Failure (List (Http.HeaderName × Http.HeaderValue)) :=
  fields.mapM fun f => Request.parseHeader f.1 f.2

/-- Reads a name out of a text. -/
def parseName (name : String) : Except Failure Http.HeaderName := match Http.HeaderName.ofText? name with
  | some n => .ok n
  | none => .error Request.invalidName

/-- Checks a configuration. -/
def ofConfig (c : HeaderConfig) : Except Failure HeaderEdits := do
  let set ← parseFields c.set
  let defaults ← parseFields c.defaults
  let remove ← c.remove.mapM parseName
  return ⟨set, defaults, remove⟩

/-- Gives a name a value if it has none. -/
def addDefault (hs : Http.Headers) (f : Http.HeaderName × Http.HeaderValue) : Http.Headers :=
  if Http.Headers.contains f.1 hs then hs else Http.Headers.insert f.1 f.2 hs

/-- Does everything, in order. -/
def run (e : HeaderEdits) (hs : Http.Headers) : Http.Headers :=
  let removed := e.remove.foldl (fun hs n => Http.Headers.remove n hs) hs
  let set := e.set.foldl (fun hs f => Http.Headers.insert f.1 f.2 hs) removed
  e.defaults.foldl addDefault set

end HeaderEdits

variable {W : Type}

/-- Edits the header fields of every request. -/
def headers (c : HeaderConfig) : Except Failure (Interceptor W) :=
  (HeaderEdits.ofConfig c).map fun e => ofHeaders "header" e.run

/-- Sets one header field. -/
def setHeader (name value : String) : Except Failure (Interceptor W) :=
  headers { HeaderConfig.none with set := [(name, value)] }

end Courier.Interceptor
