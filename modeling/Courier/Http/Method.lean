import Courier.Text.Letter

/-! Request methods. -/

namespace Courier.Http

/-- The methods a request can have. -/
inductive Method where
  | get
  | post
  | put
  | delete
  | head
  | options
  | patch
  | trace
  | connect
deriving DecidableEq, Repr

namespace Method

/-- The methods with their names, in the order in which they are listed to users. -/
def named : List (String × Method) := [
  ("GET", .get), ("POST", .post), ("PUT", .put), ("DELETE", .delete), ("HEAD", .head),
  ("OPTIONS", .options), ("PATCH", .patch), ("TRACE", .trace), ("CONNECT", .connect)]

/-- The name of a method. -/
def text : Method → String
  | .get => "GET"
  | .post => "POST"
  | .put => "PUT"
  | .delete => "DELETE"
  | .head => "HEAD"
  | .options => "OPTIONS"
  | .patch => "PATCH"
  | .trace => "TRACE"
  | .connect => "CONNECT"

/-- The method of a name, in whatever ASCII case; otherwise the name in capitals. -/
def ofText (s : String) : Except String Method :=
  let name := Text.upperAscii s
  match named.lookup name with
  | some m => .ok m
  | none => .error name

end Method
end Courier.Http
