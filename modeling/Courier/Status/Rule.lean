import Courier.Ambient
import Courier.Response
import Courier.Status.Failure

/-! Which statuses are failures, and which ones.

    A rule claims statuses and makes a failure out of a response it claims. Of several rules the first
    one that claims the status decides. -/

namespace Courier.Status

/-- Claims statuses and decodes failures; a failure may never come, if the body it is made of does not. -/
structure Rule (W : Type) where
  name : String
  claims : Nat → Bool
  decode : String → Response W → W → W × Option Failure

namespace Rule

variable {W : Type}

/-- A rule whose failures are made of the bytes of the body; if these cannot be read, that is the
    failure. -/
def ofDecoder (name : String) (claims : Nat → Bool)
    (decoder : String → Nat → Http.Headers → Bytes → W → W × Failure) : Rule W where
  name := name
  claims := claims
  decode := fun key response w => match response.data w with
    | (w', .ok bytes) => match decoder key response.status response.headers bytes w' with
      | (w'', e) => (w'', some e)
    | (w', .error e) => (w', some e)
    | (w', .never) => (w', none)

/-- Whether the status blames the client. -/
def isClientError (status : Nat) : Bool := 400 ≤ status && status < 500

/-- Whether the status blames the server. -/
def isServerError (status : Nat) : Bool := 500 ≤ status && status < 600

/-- Claims every status from 400 on, with the standard failure. -/
def standard [Ambient W] : Rule W :=
  ofDecoder "default" (fun status => 400 ≤ status) fun key status headers bytes w =>
    (w, standardFailure key status headers bytes (Ambient.calendar w))

/-- The first rule that claims a status. -/
def select (rules : List (Rule W)) (status : Nat) : Option (Rule W) := rules.find? fun r => r.claims status

/-- Several rules as one. -/
def firstOf (rules : List (Rule W)) : Rule W where
  name := "composite"
  claims := fun status => (select rules status).isSome
  decode := fun key response w => match select rules response.status with
    | some rule => rule.decode key response w
    | none => (w, some (.other ("no status handler for status " ++ toString response.status)))

/-- Several rules as diagnostics show them. -/
def quotedNames (names : List String) : String :=
  "[" ++ String.intercalate ", " (names.map Text.quoted) ++ "]"

end Rule
end Courier.Status
