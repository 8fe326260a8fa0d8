import Courier.Ambient
import Courier.Response
import Courier.Text.Quoted

/-! Requests in place of others.

    An interceptor changes a request before it is sent, on every attempt. A chain applies its parts in
    their order, each to the request of the one before it. -/

namespace Courier

/-- Changes requests. -/
structure Interceptor (W : Type) where
  name : String
  apply : Request W → W → W × Request W

namespace Interceptor

variable {W : Type}

/-- An interceptor that touches only the header fields. -/
def ofHeaders (name : String) (edit : Http.Headers → Http.Headers) : Interceptor W where
  name := name
  apply := fun r w => (w, { r with headers := edit r.headers })

variable [Ambient W]

/-- Applies interceptors in their order, naming each in the log. -/
def applyAll : List (Interceptor W) → Request W → W → W × Request W
  | [], r, w => (w, r)
  | i :: is, r, w =>
    match i.apply r (Ambient.record .trace "Interceptor" ("applying '" ++ i.name ++ "'") w) with
    | (w', r') => applyAll is r' w'

/-- Several interceptors as one. -/
def chain (parts : List (Interceptor W)) : Interceptor W := ⟨"chain", applyAll parts⟩

/-- The exchange with an interceptor for its requests. -/
def exchange (i : Interceptor W) (inner : Exchange W) : Exchange W where
  shown := "InterceptorReactiveHttpClient \x7b interceptor: " ++ Text.quoted i.name ++ ", inner: "
    ++ inner.shown ++ " \x7d"
  execute := fun request w => match i.apply request w with
    | (w', changed) => inner.execute changed w'

end Interceptor
end Courier
