import Courier.Config.Properties
import Courier.Interceptor.Factory
import Courier.Listener.Exchange
import Courier.Mapper
import Courier.Retry.Exchange
import Courier.Status.Faulted
import Courier.Transport

/-! Clients.

    A client wraps its transport in the parts it was given, always in the same order, the outermost
    first: listener, retries, mappers, status rules, interceptors. So the listener sees a call as a
    whole, each attempt runs through the interceptors again, and what a mapper takes for a success is
    never tried again. -/

namespace Courier

/-- The parts of a client that is to be built. -/
structure Blueprint (W : Type) where
  endpoint : Endpoint
  target : Option Url
  transport : Option (Exchange W)
  interceptors : List (Interceptor W)
  rules : List (Status.Rule W)
  mappers : List (Mapper W)
  policy : Option (Retry.Policy W)
  listener : Option (Listener W)

/-- A client for one method. -/
structure Client (W : Type) where
  pipeline : Exchange W
  target : Option Url
  endpoint : Endpoint

/-- An action that may fail. -/
abbrev Action (W α : Type) := W → W × Except Failure α

/-- A question that may fail, or never be answered. -/
abbrev Query (W α : Type) := W → W × Eventual Failure α

namespace Blueprint

variable {W : Type}

/-- No parts. -/
def ofEndpoint (endpoint : Endpoint) : Blueprint W := ⟨endpoint, none, none, [], [], [], none, none⟩

/-- Sets the URL that paths are appended to. -/
def withTarget (b : Blueprint W) (text : String) : Except Failure (Blueprint W) :=
  match Url.ofText text with
  | .ok u => .ok { b with target := some u }
  | .error f => .error (.configuration ("invalid target '" ++ text ++ "': " ++ f.text))

/-- Adds an interceptor behind the others. -/
def withInterceptor (b : Blueprint W) (i : Interceptor W) : Blueprint W :=
  { b with interceptors := b.interceptors ++ [i] }

/-- Adds a status rule behind the others. -/
def withRule (b : Blueprint W) (r : Status.Rule W) : Blueprint W := { b with rules := b.rules ++ [r] }

/-- Adds a mapper behind the others. -/
def withMapper (b : Blueprint W) (m : Mapper W) : Blueprint W := { b with mappers := b.mappers ++ [m] }

/-- Takes what is not found for an empty success. -/
def decode404 (b : Blueprint W) : Blueprint W := b.withMapper .ignore404

/-- A blueprint as diagnostics show it. -/
def quoted (b : Blueprint W) : String :=
  "ReactiveFeignBuilder \x7b method: MethodMetadata \x7b method_key: " ++ Text.quoted b.endpoint.key
    ++ ", kind: " ++ b.endpoint.arity.text ++ " \x7d, target: "
    ++ Config.quotedSetting (b.target.map fun u => Text.quoted u.text)
    ++ ", interceptors: " ++ Status.Rule.quotedNames (b.interceptors.map (·.name))
    ++ ", status_handlers: " ++ Status.Rule.quotedNames (b.rules.map (·.name))
    ++ ", mappers: " ++ toString b.mappers.length
    ++ ", retry: " ++ Config.quotedSetting (b.policy.map fun p => Text.quoted p.name) ++ ", .. \x7d"

variable [Ambient W]

/-- Adds the interceptors of some settings. -/
def withConfigured (registry : Interceptor.Registry W) :
    List Config.InterceptorProperties → Blueprint W → Action W (Blueprint W)
  | [], b, w => (w, .ok b)
  | p :: ps, b, w => match Interceptor.create registry p.kind p.config w with
    | (w, .error e) => (w, .error e)
    | (w, .ok i) => withConfigured registry ps (b.withInterceptor i) w

/-- The parts that some settings ask for in front of the configured interceptors. -/
def startOf (wire : Wire W) (endpoint : Endpoint) (p : Config.Properties) : Except Failure (Blueprint W) := do
  let b ← match p.target with
    | some t => (ofEndpoint endpoint).withTarget t
    | none => .ok (ofEndpoint endpoint)
  let settings : WireSettings := ⟨p.connectTimeout, p.followRedirects, p.readTimeout⟩
  (wire.prepare settings).mapError fun message => .configuration ("failed to build http client: " ++ message)
  let b := { b with transport := some (Transport.exchange wire settings endpoint.arity) }
  if p.defaultHeaders.isEmpty then return b
  let i ← Interceptor.headers { Interceptor.HeaderConfig.none with defaults := p.defaultHeaders }
  return b.withInterceptor i

/-- The parts that some settings ask for. -/
def ofProperties (registry : Interceptor.Registry W) (wire : Wire W) (endpoint : Endpoint)
    (p : Config.Properties) : Action W (Blueprint W) := fun w =>
  match startOf wire endpoint p with
  | .error e => (w, .error e)
  | .ok b => match withConfigured registry p.interceptors b w with
    | (w, .error e) => (w, .error e)
    | (w, .ok b) =>
      let b := if p.decode404 then b.decode404 else b
      (w, .ok { b with
        policy := (p.retry.map fun r => r.policy.toPolicy).or b.policy
        listener := (p.log.map fun l => l.callLog.listener).or b.listener })

/-- The parts that the settings of a client ask for; the settings are written to the log. -/
def ofConfig (registry : Interceptor.Registry W) (wire : Wire W) (endpoint : Endpoint) (c : Config)
    (name : String) : Action W (Blueprint W) := fun w =>
  match Config.Properties.load c name with
  | .error e => (w, .error (.ofConfig e))
  | .ok p => ofProperties registry wire endpoint p
    (Ambient.record .debug "ReactiveFeign" ("Client '" ++ name ++ "' properties: " ++ p.quoted) w)

/-- The transport behind the interceptors. -/
def sent (wire : Wire W) (b : Blueprint W) : Exchange W :=
  let transport := b.transport.getD (Transport.exchange wire ⟨none, true, none⟩ b.endpoint.arity)
  if b.interceptors.isEmpty then transport else Interceptor.exchange (.chain b.interceptors) transport

/-- The transport, behind interceptors, status rules and mappers: what one attempt runs through. -/
def attempt (wire : Wire W) (b : Blueprint W) : Exchange W :=
  let checked := Status.exchange (.firstOf (b.rules ++ [.standard])) b.endpoint.key (b.sent wire)
  if b.mappers.isEmpty then checked else Mapper.exchange b.mappers checked

/-- The transport in all its wraps. -/
def pipeline (wire : Wire W) (b : Blueprint W) : Exchange W :=
  let retried := match b.policy with
    | some p => Retry.exchange p (b.listener.getD Listener.CallLog.brief.listener) b.endpoint (b.attempt wire)
    | none => b.attempt wire
  match b.listener with
  | some l => l.exchange b.endpoint.key retried
  | none => retried

/-- Builds the client. -/
def build (wire : Wire W) (b : Blueprint W) (w : W) : W × Client W :=
  (Ambient.record .info "ReactiveFeign" ("Built client for " ++ b.endpoint.key) w,
    ⟨b.pipeline wire, b.target, b.endpoint⟩)

end Blueprint

namespace Client

variable {W : Type}

/-- Whether the text has a scheme with an authority anywhere in it. -/
def hasAuthority : List Char → Bool
  | ':' :: '/' :: '/' :: _ => true
  | _ :: rest => hasAuthority rest
  | [] => false

/-- The target's text without closing slashes. -/
def baseText (target : Url) : String :=
  String.ofList (target.text.toList.reverse.dropWhile (· == '/')).reverse

/-- A request for a path behind the target, or for an absolute URL. -/
def request (c : Client W) (method : Http.Method) (path : String) : Except Failure (Request W) :=
  if hasAuthority path.toList then Request.parse method path
  else match c.target with
    | none => .error (.invalidRequest ("relative path '" ++ path ++ "' without a target"))
    | some target =>
      Request.parse method (baseText target ++ "/" ++ String.ofList (path.toList.dropWhile (· == '/')))

/-- Runs a request through the pipeline. -/
def execute (c : Client W) (r : Request W) : Query W (Response W) := c.pipeline.execute r

/-- The arity that a caller relies on must be the declared one. -/
def expect (c : Client W) (arity : Arity) : Except Failure Unit :=
  if c.endpoint.arity = arity then .ok ()
  else .error (.configuration (c.endpoint.key ++ " is declared " ++ c.endpoint.arity.text ++ ", not "
    ++ arity.text))

/-- An element in the shape that a caller asks for. -/
def typed {α : Type} (d : Json.Decoder α) : Except Failure Json → Except Failure α
  | .error e => .error e
  | .ok j => match d.ofJson j with
    | .ok v => .ok v
    | .error f => .error (.ofJson f)

/-- The result of a method that has at most one. -/
def mono {α : Type} (c : Client W) (d : Json.Decoder α) (r : Request W) : Query W (Option α) := fun w =>
  match c.expect .mono with
  | .error e => (w, .error e)
  | .ok () => match c.execute r w with
    | (w, .error e) => (w, .error e)
    | (w, .never) => (w, .never)
    | (w, .ok response) => match response.body w with
      | (w, items) => match items w with
        | .done w => (w, .ok none)
        | .item w element _ => (w, .ofExcept ((typed d element).map some))
        | .never w => (w, .never)

/-- The results of a method that has many, each decoded as it arrives. -/
def flux {α : Type} (c : Client W) (d : Json.Decoder α) (r : Request W) :
    Query W (Stream W (Except Failure α)) := fun w =>
  match c.expect .flux with
  | .error e => (w, .error e)
  | .ok () => match c.execute r w with
    | (w, .error e) => (w, .error e)
    | (w, .never) => (w, .never)
    | (w, .ok response) => match response.body w with
      | (w, items) => (w, .ok (items.map (typed d)))

/-- A client as diagnostics show it, up to its target. -/
def quotedStart (c : Client W) : String := "ReactiveFeignClient \x7b pipeline: " ++ c.pipeline.shown

end Client
end Courier
