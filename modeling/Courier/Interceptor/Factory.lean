import Courier.Interceptor.BasicAuth
import Courier.Interceptor.Headers

/-! Interceptors by the name of their kind.

    Kinds that an application registered come first, those registered last before others of the name;
    `header` and `basic_auth` are built in. -/

namespace Courier.Interceptor

/-- Kinds of interceptors that an application adds, each with its constructor; later ones first. -/
abbrev Registry (W : Type) := List (String × (Json → Except Failure (Interceptor W)))

variable {W : Type}

/-- Adds a kind, in place of an earlier one of the name. -/
def Registry.register (name : String) (make : Json → Except Failure (Interceptor W)) (r : Registry W) :
    Registry W := (name, make) :: r

variable [Ambient W]

/-- Refuses a kind or its configuration, in the log too. -/
def refuse {α : Type} (message : String) (w : W) : W × Except Failure α :=
  let e := Failure.configuration message
  (Ambient.record .error "Interceptor" e.text w, .error e)

/-- Refuses a configuration of another shape. -/
def refuseConfig {α : Type} (kind : String) (f : Json.Fault) (w : W) : W × Except Failure α :=
  refuse ("invalid " ++ kind ++ " interceptor config: " ++ f.text) w

/-- Makes an interceptor of a kind. -/
def create (registry : Registry W) (kind : String) (config : Json) (w : W) :
    W × Except Failure (Interceptor W) :=
  let w := Ambient.record .debug "Interceptor" ("Creating interceptor of type '" ++ kind ++ "'") w
  match registry.lookup kind with
  | some make => (w, make config)
  | none =>
    if kind == "header" then match HeaderConfig.decoder.ofJson config with
      | .ok c => (w, headers c)
      | .error f => refuseConfig kind f w
    else if kind == "basic_auth" then match Credentials.decoder.ofJson config with
      | .ok c => (w, .ok (basicAuth c))
      | .error f => refuseConfig kind f w
    else refuse ("unknown interceptor type: " ++ kind) w

end Courier.Interceptor
