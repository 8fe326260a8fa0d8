import Courier.Power
import Courier.Text.Utf8

/-! Uniform resource locators.

    A URL has a scheme, an authority where a server is named, a path, a query and a fragment. Schemes
    of the web and of files are special: their paths are never empty. A path is opaque, a text without
    segments, if no slash follows the scheme. All parts are kept percent-encoded, as they are written. -/

namespace Courier

namespace Url

/-- Who serves a URL. -/
inductive Host where
  | name (text : String)
  | ipv4 (address : Nat)
  | ipv6 (pieces : List Nat)
deriving DecidableEq, Repr

/-- User, host and port. -/
structure Authority where
  user : String
  password : Option String
  host : Host
  port : Option Nat
deriving DecidableEq, Repr

/-- What a scheme is, as far as reading its URLs goes. -/
inductive Family where
  | web
  | file
  | other
deriving DecidableEq, Repr

end Url

/-- A uniform resource locator. A path that would look like an authority is shielded from the scheme by
    `/.`, and stays so. -/
structure Url where
  scheme : String
  authority : Option Url.Authority
  isShielded : Bool
  path : String
  query : Option String
  fragment : Option String
deriving DecidableEq, Repr

namespace Url

/-- The schemes with a default port. -/
def defaultPort (scheme : String) : Option Nat :=
  [("http", 80), ("https", 443), ("ws", 80), ("wss", 443), ("ftp", 21)].lookup scheme

/-- The family of a scheme. -/
def familyOf (scheme : String) : Family :=
  if scheme == "file" then .file else if (defaultPort scheme).isSome then .web else .other

/-- Whether the family is one of the special ones. -/
def Family.isSpecial : Family → Bool
  | .other => false
  | _ => true

/-- Dots between four numbers. -/
def ipv4Text (a : Nat) : String :=
  String.intercalate "." ([a / twoTo 24, a / twoTo 16 % 256, a / 256 % 256, a % 256].map toString)

/-- The lengths of the runs of zeros that start at each piece. -/
def zeroRuns : List Nat → List Nat
  | [] => []
  | p :: ps =>
    let rest := zeroRuns ps
    (if p == 0 then rest.headD 0 + 1 else 0) :: rest

/-- The start and the length of the first longest run of two zeros or more. -/
def longestZeros (pieces : List Nat) : Option (Nat × Nat) :=
  let runs := zeroRuns pieces
  let longest := runs.foldl max 0
  if longest < 2 then none else (runs.findIdx? (· == longest)).map fun i => (i, longest)

/-- Pieces in hexadecimal, colons between them. -/
def piecesText (ps : List Nat) : String :=
  String.intercalate ":" (ps.map fun p => String.ofList (Nat.toDigits 16 p))

/-- Eight pieces, the longest run of zeros left out. -/
def ipv6Text (pieces : List Nat) : String := match longestZeros pieces with
  | none => piecesText pieces
  | some (start, size) => piecesText (pieces.take start) ++ "::" ++ piecesText (pieces.drop (start + size))

/-- A host as it is written. -/
def Host.text : Host → String
  | .name s => s
  | .ipv4 a => ipv4Text a
  | .ipv6 ps => "[" ++ ipv6Text ps ++ "]"

/-- User and password as they are written, with the sign that follows them. -/
def Authority.userText (a : Authority) : String :=
  let password := match a.password with
    | some p => ":" ++ p
    | none => ""
  if a.user.isEmpty && a.password.isNone then "" else a.user ++ password ++ "@"

/-- An authority as it is written. -/
def Authority.text (a : Authority) : String :=
  let port := match a.port with
    | some p => ":" ++ toString p
    | none => ""
  a.userText ++ a.host.text ++ port

/-- A part behind its sign, if it is there. -/
def behind (sign : String) : Option String → String
  | some s => sign ++ s
  | none => ""

/-- What is written between the scheme and the path. -/
def front (u : Url) : String :=
  behind "//" (u.authority.map Authority.text) ++ if u.isShielded then "/." else ""

/-- A URL as it is written. -/
def text (u : Url) : String :=
  u.scheme ++ ":" ++ u.front ++ u.path ++ behind "?" u.query ++ behind "#" u.fragment

/-- Whether the path is opaque. -/
def isOpaque (u : Url) : Bool := !(u.front ++ u.path).startsWith "/"

end Url
end Courier
