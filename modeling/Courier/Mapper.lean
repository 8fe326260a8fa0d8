import Courier.Ambient
import Courier.Response
import Courier.Text.Quoted

/-! Responses in place of others.

    A mapper may change the status of a response or empty its body; a body that is emptied is never
    read. Mappers apply in their order, each to what the one before it made. -/

namespace Courier

/-- Changes responses. -/
structure Mapper (W : Type) where
  name : String
  map : Response W → Response W

namespace Mapper

variable {W : Type}

/-- The response with another status, if one is given, and without its body, if so asked. -/
def change (status : Option Nat) (emptyBody : Bool) (r : Response W) : Response W where
  status := status.getD r.status
  headers := r.headers
  body := if emptyBody then fun w => (w, .empty) else r.body
  data := if emptyBody then fun w => (w, .ok []) else r.data

/-- Takes what is not found for an empty success. -/
def ignore404 : Mapper W where
  name := "ignore404"
  map := fun r => if r.status == 404 then change (some 200) true r else r

variable [Ambient W]

/-- Applies one mapper; a change of status is written to the log. -/
def apply (m : Mapper W) (r : Response W) (w : W) : W × Response W :=
  let mapped := m.map r
  if mapped.status == r.status then (w, mapped)
  else
    let message := "'" ++ m.name ++ "' mapped status " ++ toString r.status ++ " to "
      ++ toString mapped.status
    (Ambient.record .debug "ResponseMapper" message w, mapped)

/-- Applies mappers in their order. -/
def applyAll : List (Mapper W) → Response W → W → W × Response W
  | [], r, w => (w, r)
  | m :: ms, r, w => match m.apply r w with
    | (w', r') => applyAll ms r' w'

/-- The exchange with mappers for its responses. -/
def exchange (mappers : List (Mapper W)) (inner : Exchange W) : Exchange W where
  shown := "ResponseMappingReactiveHttpClient \x7b mappers: ["
    ++ String.intercalate ", " (mappers.map fun m => Text.quoted m.name) ++ "], inner: " ++ inner.shown
    ++ " \x7d"
  execute := fun request w => match inner.execute request w with
    | (w', .error e) => (w', .error e)
    | (w', .never) => (w', .never)
    | (w', .ok response) =>
      let (w'', mapped) := applyAll mappers response w'
      (w'', .ok mapped)

end Mapper
end Courier
