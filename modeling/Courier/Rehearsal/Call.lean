import Courier.Json.Shape
import Courier.Rehearsal.Parts

/-! Calls on a stage. -/

namespace Courier.Rehearsal

/-- What a caller reads of a response. -/
inductive Reading where
  | mono (shape : Json.Shape)
  | flux (shape : Json.Shape) (limit : Option Nat)
  | body (limit : Option Nat)
  | data
  | head

/-- A call: its request, and what is read of the response. -/
structure Call where
  method : String
  path : String
  headers : List (String × String)
  body : Option (Body Stage)
  reading : Reading

/-- The part of a response that was read. -/
inductive Content where
  | nothing
  | items (items : List (Except Failure Json))
  | data (data : Eventual Failure Bytes)

/-- What a call came to. -/
inductive Result where
  | failed (failure : Failure)
  | never
  | value (value : Option Json)
  | items (items : List (Except Failure Json))
  | response (status : Nat) (headers : Http.Headers) (content : Content)

/-- The request of a call. -/
def Call.request (c : Call) (client : Client Stage) : Except Failure (Request Stage) := do
  let method ← Request.parseMethod c.method
  let r ← client.request method c.path
  let r ← c.headers.foldlM (fun r h => r.withHeader h.1 h.2) r
  return { r with body := c.body.or r.body }

/-- Notes that an item was received. -/
def gotItem {α : Type} (_ : α) (s : Stage) : Stage := s.note .got

/-- Reads of a response what is asked for. -/
def readContent (response : Response Stage) : Reading → Stage → Stage × Content
  | .body limit, s =>
    let (s, stream) := response.body s
    let (s, items) := read gotItem (Stage.note .ended) limit stream s
    (s, .items items)
  | .data, s =>
    let (s, data) := response.data s
    (s, .data data)
  | _, s => (s, .nothing)

/-- Runs a request. -/
def runRequest (client : Client Stage) (r : Request Stage) : Reading → Stage → Stage × Result
  | .mono shape, s => match client.mono shape.decode r s with
    | (s, .ok v) => (s, .value v)
    | (s, .error e) => (s, .failed e)
    | (s, .never) => (s, .never)
  | .flux shape limit, s => match client.flux shape.decode r s with
    | (s, .error e) => (s, .failed e)
    | (s, .never) => (s, .never)
    | (s, .ok stream) =>
      let (s, items) := read gotItem id limit stream s
      (s, .items items)
  | reading, s => match client.execute r s with
    | (s, .error e) => (s, .failed e)
    | (s, .never) => (s, .never)
    | (s, .ok response) =>
      let (s, content) := readContent response reading (s.note (.response response.status))
      (s, .response response.status response.headers content)

/-- Runs a call. -/
def Call.run (c : Call) (client : Client Stage) (s : Stage) : Stage × Result :=
  match c.request client with
  | .error e => (s, .failed e)
  | .ok r => runRequest client r c.reading s

end Courier.Rehearsal
