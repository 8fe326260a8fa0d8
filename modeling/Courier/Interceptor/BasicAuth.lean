import Courier.Base64
import Courier.Interceptor.Basic
import Courier.Json.Decoder

/-! Credentials on every request: user and password with a colon between them, in Base64. -/

namespace Courier.Interceptor

/-- Who asks. -/
structure Credentials where
  user : String
  password : String
deriving DecidableEq, Repr

namespace Credentials

/-- Reads credentials. -/
def decoder : Json.Decoder Credentials :=
  Json.Decoder.record "BasicAuthConfig" [
    .of "username" true Json.Decoder.string fun v c => { c with user := v },
    .of "password" true Json.Decoder.string fun v c => { c with password := v }] ⟨"", ""⟩

/-- The header value that carries credentials; it is never shown. -/
def headerValue (c : Credentials) : Http.HeaderValue :=
  ⟨Text.ascii "Basic " ++ Text.charsBytes (Base64.encode (Text.bytes (c.user ++ ":" ++ c.password))), true⟩

end Credentials

/-- The name of the header that carries credentials. -/
def authorizationName : Http.HeaderName := ⟨"authorization"⟩

/-- Sets the credentials of every request. -/
def basicAuth {W : Type} (c : Credentials) : Interceptor W :=
  ofHeaders "basic_auth" (Http.Headers.insert authorizationName c.headerValue)

end Courier.Interceptor
