import Courier.Url.Host
import Courier.Url.Path

/-! Reading a URL.

    Blanks around the text do not count, nor do tabs and ends of lines inside it. What follows the scheme
    is read from the left: authority, path, query, fragment. -/

namespace Courier.Url

/-- Whether a sign ends the authority of such a URL. -/
def endsAuthority (family : Family) (c : Char) : Bool := isSlash family c || c == '?' || c == '#'

/-- Splits at the last `@` of the authority, if it has one. -/
def splitUser (cs : List Char) : Option (List Char × List Char) := match (cs.reverse.span (· != '@')) with
  | (_, []) => none
  | (host, _ :: user) => some (user.reverse, host.reverse)

/-- User and password; the password is there only if it is not empty. -/
def readUser (cs : List Char) : String × Option String :=
  let (user, rest) := cs.span (· != ':')
  (percent userSet user, match rest with
    | _ :: c :: password => some (percent userSet (c :: password))
    | _ => none)

/-- Cuts in front of the colon that opens the port: one outside brackets. -/
def cutPort (inside : Bool) : List Char → List Char × List Char
  | [] => ([], [])
  | c :: rest =>
    if c == ':' && !inside then ([], c :: rest)
    else
      let (host, port) := cutPort (if c == '[' then true else if c == ']' then false else inside) rest
      (c :: host, port)

/-- A port and what follows it, which may be a backslash; the usual port of the scheme is not kept. -/
def readPort (scheme : String) (cs : List Char) : Except Fault (Option Nat × List Char) :=
  let (digits, rest) := cs.span Char.isDigit
  match numberIn 10 digits with
  | none => .error .invalidPort
  | some n =>
    if 65535 < n || (!rest.isEmpty && rest.head? != some '\\') then .error .invalidPort
    else if digits.isEmpty || defaultPort scheme == some n then .ok (none, rest)
    else .ok (some n, rest)

/-- Whether the host says nothing. -/
def Host.isEmpty : Host → Bool
  | .name s => s.isEmpty
  | _ => false

/-- Host and port, and what follows them. -/
def readHost (scheme : String) (family : Family) (cs : List Char) :
    Except Fault (Host × Option Nat × List Char) := do
  let (hostChars, portChars) := cutPort false cs
  if family == .web && hostChars.isEmpty then throw .emptyHost
  let host ← if family.isSpecial then specialHost hostChars else opaqueHost hostChars
  if host.isEmpty && (!portChars.isEmpty || family.isSpecial) then throw .emptyHost
  let (port, rest) ← readPort scheme (portChars.drop 1)
  return (host, port, rest)

/-- An authority, without the slashes in front of it, and what follows its port; `isLast` tells that
    nothing of the URL comes behind it. -/
def readAuthority (scheme : String) (family : Family) (isLast : Bool) (cs : List Char) :
    Except Fault (Authority × List Char) := do
  match splitUser cs with
  | none =>
    let (host, port, rest) ← readHost scheme family cs
    return (⟨"", none, host, port⟩, rest)
  | some (userChars, hostChars) =>
    if userChars.isEmpty && hostChars.isEmpty && !isLast then throw .emptyHost
    let (user, password) := readUser userChars
    let (host, port, rest) ← readHost scheme family hostChars
    if host.isEmpty && (!user.isEmpty || password.isSome) then throw .emptyHost
    return (⟨user, password, host, port⟩, rest)

/-- What follows a sign, and what stands before it. -/
def cutBefore (mark : Char) (cs : List Char) : List Char × Option (List Char) :=
  let (before, rest) := cs.span (· != mark)
  (before, match rest with
    | _ :: after => some after
    | [] => none)

/-- What stands between a scheme and a query: an authority, and the path. -/
structure Hierarchy where
  authority : Option Authority
  path : String

/-- Reads an authority and a path; `isLast` tells that neither a query nor a fragment follows. -/
def readServer (scheme : String) (family : Family) (isLast : Bool) (cs : List Char) :
    Except Fault Hierarchy := do
  let (authorityChars, pathChars) := cs.span fun c => !endsAuthority family c
  let (authority, rest) ←
    readAuthority scheme family (isLast && (visible pathChars).isEmpty) (visible authorityChars)
  return ⟨some authority, (Trail.behindAuthority family (rest ++ pathChars)).text family⟩

/-- The authority of a file on this machine. -/
def thisMachine : Authority := ⟨"", none, .name "", none⟩

/-- The host of a file, unless it is this machine. -/
def fileHost (cs : List Char) : Except Fault (Option Host) :=
  if cs.isEmpty then .ok none
  else match specialHost cs with
    | .error f => .error f
    | .ok host => .ok (if host == .name "localhost" then none else some host)

/-- Reads the host and the path of a file, behind two slashes. -/
def readFileServer (cs : List Char) : Except Fault Hierarchy := do
  let here (cs : List Char) : Hierarchy := ⟨some thisMachine, (Trail.root.read .file cs).text .file⟩
  let (hostChars, pathChars) := cs.span fun c => !endsAuthority .file c
  if isDrive (visible hostChars) then return here cs
  else match ← fileHost (visible hostChars) with
    | none => return here pathChars
    | some host =>
      let trail := Trail.behindAuthority .file pathChars
      return ⟨some (if trail.hasDrive then thisMachine else { thisMachine with host := host }),
        trail.text .file⟩

/-- Reads what follows the scheme of a file. -/
def readFile (cs : List Char) : Except Fault Hierarchy :=
  match behindSlash? .file cs with
  | none => .ok ⟨some thisMachine, (Trail.root.read .file cs).text .file⟩
  | some rest => match behindSlash? .file rest with
    | some rest => readFileServer rest
    | none => .ok ⟨some thisMachine, (Trail.blank.read .file cs).text .file⟩

/-- Authority and path. -/
def readHierarchy (scheme : String) (isLast : Bool) (cs : List Char) : Except Fault Hierarchy :=
  match familyOf scheme with
  | .web => readServer scheme .web isLast (cs.dropWhile fun c => isSlash .web c || isIgnored c)
  | .file => readFile cs
  | .other => match behindSlash? .other cs with
    | none => .ok ⟨none, percent [] (visible cs)⟩
    | some rest => match behindSlash? .other rest with
      | some rest => readServer scheme .other isLast rest
      | none => .ok ⟨none, (Trail.root.read .other rest).text .other⟩

/-- Whether the character may stand in a scheme. -/
def isSchemeChar (c : Char) : Bool := c.isAlphanum || c == '+' || c == '-' || c == '.'

/-- Cuts a scheme from what follows its colon; `name` holds its characters so far, the last one first. -/
def cutScheme (name : List Char) : List Char → Option (String × List Char)
  | [] => none
  | c :: rest =>
    if isIgnored c then cutScheme name rest
    else if c == ':' then if name.isEmpty then none else some (String.ofList name.reverse, rest)
    else if isSchemeChar c && (!name.isEmpty || c.isAlpha) then cutScheme (c.toLower :: name) rest
    else none

/-- The text without blanks and controls around it. -/
def trimmedText (s : String) : List Char :=
  let isOuter (c : Char) : Bool := c.toNat ≤ 32
  ((s.toList.dropWhile isOuter).reverse.dropWhile isOuter).reverse

/-- Reads an absolute URL. -/
def ofText (s : String) : Except Fault Url := do
  match cutScheme [] (trimmedText s) with
  | none => throw .noBase
  | some (scheme, rest) =>
    let (beforeFragment, fragment) := cutBefore '#' rest
    let (hierarchyChars, query) := cutBefore '?' beforeFragment
    let h ← readHierarchy scheme (query.isNone && fragment.isNone) hierarchyChars
    let queryChars := if (familyOf scheme).isSpecial then specialQuerySet else querySet
    return ⟨scheme, h.authority, h.authority.isNone && h.path.startsWith "//", h.path,
      query.map fun cs => percent queryChars (visible cs),
      fragment.map fun cs => percent fragmentSet (visible cs)⟩

/-- An opaque path from a text; a slash at its start is encoded. -/
def opaquePath (cs : List Char) : String := match cs with
  | '/' :: rest => "%2F" ++ percent [] (visible rest)
  | _ => percent [] (visible cs)

/-- The path that takes the place of one behind an authority or a scheme. The sign of a query or a
    fragment is encoded; before a path that is not special it leaves nothing of the path. -/
def newPath (u : Url) (cs : List Char) : String :=
  let family := familyOf u.scheme
  let hasServer := u.authority.any fun a => !a.host.isEmpty
  if family == .file && !hasServer then (Trail.blank.read family cs).text family
  else match firstVisible? cs with
    | some (c, _) =>
      if !family.isSpecial && (c == '?' || c == '#') then ""
      else (Trail.behindAuthority family cs).text family
    | none => (Trail.behindAuthority family cs).text family

/-- The URL with another path. -/
def withPath (u : Url) (s : String) : Url :=
  { u with path := if u.isOpaque then opaquePath s.toList else u.newPath s.toList }

end Courier.Url
