import Courier.Url.Basic
import Courier.Url.Percent

/-! Paths.

    Segments are met from the left and `.` and `..` are resolved as they are met. A segment that names a
    drive, a letter and a colon or a bar, is never left again; at the start of a file path its bar
    becomes a colon and it takes the place of a host. Tabs and ends of lines do not count, save that one
    behind the drive at the start of a file path ends the segment. -/

namespace Courier.Url

/-- Whether the character does not count. -/
def isIgnored (c : Char) : Bool := c == '\t' || c == '\n' || c == '\r'

/-- The characters that count. -/
def visible (cs : List Char) : List Char := cs.filter fun c => !isIgnored c

/-- The first character that counts and what follows it. -/
def firstVisible? (cs : List Char) : Option (Char × List Char) := match cs.dropWhile isIgnored with
  | c :: rest => some (c, rest)
  | [] => none

/-- Whether the character is a slash to such a URL. -/
def isSlash (family : Family) (c : Char) : Bool := c == '/' || (c == '\\' && family.isSpecial)

/-- What follows the slash that comes first, if one does. -/
def behindSlash? (family : Family) (cs : List Char) : Option (List Char) := match firstVisible? cs with
  | some (c, rest) => if isSlash family c then some rest else none
  | none => none

/-- Whether the text is a letter and a colon or a bar. -/
def isDrive : List Char → Bool
  | [a, b] => a.isAlpha && (b == ':' || b == '|')
  | _ => false

/-- Whether a segment begins with a drive that ends there or at a backslash. -/
def beginsWithDrive : List Char → Bool
  | a :: b :: rest => isDrive [a, b] && (rest.isEmpty || rest.head? == some '\\')
  | _ => false

/-- Whether a segment stands for the one it is in. -/
def isDot (segment : String) : Bool := segment == "." || segment.toLower == "%2e"

/-- Whether a segment stands for the one above. -/
def isDoubleDot (segment : String) : Bool :=
  ["..", ".%2e", "%2e.", "%2e%2e"].contains segment.toLower

/-- A path being read: the segments that a slash follows, the last one first, and whether it opened with
    a drive. -/
structure Trail where
  done : List String
  hasDrive : Bool

namespace Trail

/-- The path of a single slash. -/
def root : Trail := ⟨[""], false⟩

/-- The path of nothing. -/
def blank : Trail := ⟨[], false⟩

/-- Whether nothing but the slash at the start was read. -/
def isRoot (t : Trail) : Bool := t.done == [""]

/-- Leaves the last segment, unless it is the first one or a drive. -/
def leave (t : Trail) : Trail := match t.done with
  | last :: more :: rest =>
    if beginsWithDrive last.toList then t else { t with done := more :: rest }
  | _ => t

/-- The drive at the start of a segment that a tab or the end of a line cuts off, and what follows. -/
def cutDrive? (segment : List Char) : Option (List Char × List Char) := do
  let (a, rest) ← firstVisible? segment
  let (b, rest) ← firstVisible? rest
  match rest with
  | c :: _ =>
    let rest := visible rest
    if a.isAlpha && b == ':' && isIgnored c && !rest.isEmpty then return ([a, b], rest) else failure
  | [] => failure

/-- Meets a segment; returns the path before it, and the segment if it is one of its own. -/
def meet (family : Family) (segment : List Char) (t : Trail) : Trail × Option String :=
  let opens := family == .file && t.isRoot
  match (if opens then cutDrive? segment else none) with
  | some (drive, rest) => ({ t with done := String.ofList drive :: t.done }, some (percent pathSet rest))
  | none =>
    let cs := visible segment
    let text := percent pathSet cs
    if isDoubleDot text then (t.leave, none)
    else if isDot text then (t, none)
    else if opens && isDrive cs then
      ({ t with hasDrive := true }, some (String.ofList (cs.take 1 ++ [':'])))
    else (t, some text)

/-- Meets all segments; the last one has no slash behind it. -/
def meetAll (family : Family) : List (List Char) → Trail → Trail
  | [], t => t
  | segment :: more, t =>
    let (t, own) := t.meet family segment
    match own, more with
    | some s, _ => meetAll family more { t with done := s :: t.done }
    | none, [] => { t with done := "" :: t.done }
    | none, _ :: _ => meetAll family more t

/-- The path as it is written. A file path begins with a single slash. -/
def text (family : Family) (t : Trail) : String :=
  let joined := String.intercalate "/" t.done.reverse
  if family == .file then "/" ++ String.ofList (joined.toList.dropWhile (· == '/')) else joined

end Trail

/-- Cuts a path at its slashes. -/
def cutSegments (family : Family) (cs : List Char) : List (List Char) :=
  (cs.map fun c => if isSlash family c then '/' else c).splitOn '/'

/-- Reads a path behind what was read of it. -/
def Trail.read (family : Family) (cs : List Char) (t : Trail) : Trail :=
  t.meetAll family (cutSegments family cs)

/-- Reads the path behind an authority; the slash in front of a special one may be missing. -/
def Trail.behindAuthority (family : Family) (cs : List Char) : Trail :=
  if family.isSpecial then root.read family ((behindSlash? family cs).getD cs)
  else match firstVisible? cs with
    | none => blank.read family cs
    | some (c, _) => (if c == '/' then blank else root).read family cs

end Courier.Url
