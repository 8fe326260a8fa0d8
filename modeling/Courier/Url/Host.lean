import Courier.Power
import Courier.Url.Basic
import Courier.Url.Domain

/-! Hosts.

    A host in brackets is an address of eight pieces. The host of a special scheme is a domain; if its
    last label is a number, the whole must be an address of four. Any other host is opaque. -/

namespace Courier.Url

/-- Why a text is no URL. -/
inductive Fault where
  | noBase
  | emptyHost
  | invalidDomain
  | invalidPort
  | invalidIpv4
  | invalidIpv6
  | invalidCharacter
deriving DecidableEq, Repr

/-- The fault in words. -/
def Fault.text : Fault → String
  | .noBase => "relative URL without a base"
  | .emptyHost => "empty host"
  | .invalidDomain => "invalid international domain name"
  | .invalidPort => "invalid port number"
  | .invalidIpv4 => "invalid IPv4 address"
  | .invalidIpv6 => "invalid IPv6 address"
  | .invalidCharacter => "invalid domain character"

/-- Cuts at every occurrence of a character. -/
def cutAt (mark : Char) (cs : List Char) : List (List Char) := cs.splitOn mark

/-- The number that digits of a base make, if there are only digits. -/
def numberIn (base : Nat) (cs : List Char) : Option Nat :=
  cs.foldlM (fun n c => do
    let d ← hexValue? c
    if d < base then return n * base + d else failure) 0

/-- A part of an address of four: decimal, octal behind `0`, or hexadecimal behind `0x`. -/
def ipv4Part : List Char → Option Nat
  | [] => none
  | '0' :: 'x' :: rest => numberIn 16 rest
  | '0' :: 'X' :: rest => numberIn 16 rest
  | '0' :: c :: rest => numberIn 8 (c :: rest)
  | cs => numberIn 10 cs

/-- The parts of a domain, without an empty last one. -/
def domainParts (cs : List Char) : List (List Char) := match (cutAt '.' cs).reverse with
  | [] :: rest => rest.reverse
  | parts => parts.reverse

/-- Whether the last part of a domain is a number. -/
def endsInNumber (cs : List Char) : Bool := match (domainParts cs).getLast? with
  | none => false
  | some last => (!last.isEmpty && last.all Char.isDigit) || (ipv4Part last).isSome

/-- An address of up to four parts; the last one fills the bytes that are left. -/
def ipv4? (cs : List Char) : Option Nat := do
  let parts := domainParts cs
  if 4 < parts.length then failure
  let numbers ← parts.mapM ipv4Part
  match numbers.reverse with
  | [] => failure
  | last :: firsts =>
    if twoTo (8 * (4 - firsts.length)) ≤ last then failure
    if firsts.any (255 < ·) then failure
    let high := firsts.reverse.foldl (fun n d => n * 256 + d) 0
    return high * twoTo (8 * (4 - firsts.length)) + last

/-- A decimal number up to 255 without a leading zero. -/
def octet? (cs : List Char) : Option Nat := do
  if cs.isEmpty || 3 < cs.length || (1 < cs.length && cs.head? == some '0') then failure
  let n ← numberIn 10 cs
  if n ≤ 255 then return n else failure

/-- Four decimal numbers as two pieces. -/
def dotted? (cs : List Char) : Option (List Nat) := do
  match ← (cutAt '.' cs).mapM octet? with
  | [a, b, c, d] => return [a * 256 + b, c * 256 + d]
  | _ => failure

/-- A piece of one to four hexadecimal digits. -/
def piece? (cs : List Char) : Option Nat :=
  if cs.isEmpty || 4 < cs.length then none else numberIn 16 cs

/-- Pieces between colons; the last may be four decimal numbers if `tail` allows. -/
def pieces? (tail : Bool) : List (List Char) → Option (List Nat)
  | [] => some []
  | [last] => if tail && last.contains '.' then dotted? last else (piece? last).map ([·])
  | p :: ps => do
    let n ← piece? p
    let ns ← pieces? tail ps
    return n :: ns

/-- Pieces of a side of the gap; an empty side has none. -/
def side? (tail : Bool) (cs : List Char) : Option (List Nat) :=
  if cs.isEmpty then some [] else pieces? tail (cutAt ':' cs)

/-- Cuts at the first double colon. -/
def cutGap : List Char → Option (List Char × List Char)
  | ':' :: ':' :: rest => some ([], rest)
  | c :: rest => (cutGap rest).map fun p => (c :: p.1, p.2)
  | [] => none

/-- An address of eight pieces, a run of zeros left out at most once. -/
def ipv6? (cs : List Char) : Option (List Nat) := do
  match cutGap cs with
  | none =>
    let ps ← side? true cs
    if ps.length == 8 then return ps else failure
  | some (left, right) =>
    let ls ← side? false left
    let rs ← side? true right
    if 8 ≤ ls.length + rs.length then failure
    return ls ++ List.replicate (8 - ls.length - rs.length) 0 ++ rs

/-- Characters that no opaque host may hold. -/
def isForbiddenInHost (c : Char) : Bool :=
  [Char.ofNat 0, '\t', '\n', '\r', ' ', '#', '/', ':', '<', '>', '?', '@', '[', '\\', ']', '^', '|'].contains c

/-- An address in brackets. -/
def bracketed (cs : List Char) : Except Fault Host :=
  if cs.getLast? != some ']' then .error .invalidIpv6
  else match ipv6? cs.dropLast with
    | some ps => .ok (.ipv6 ps)
    | none => .error .invalidIpv6

/-- The host of a special scheme. -/
def specialHost : List Char → Except Fault Host
  | '[' :: rest => bracketed rest
  | cs => match domain? cs with
    | none => .error .invalidDomain
    | some [] => .error .emptyHost
    | some d =>
      if endsInNumber d then match ipv4? d with
        | some a => .ok (.ipv4 a)
        | none => .error .invalidIpv4
      else .ok (.name (String.ofList d))

/-- The host of another scheme. -/
def opaqueHost : List Char → Except Fault Host
  | '[' :: rest => bracketed rest
  | cs =>
    if cs.any isForbiddenInHost then .error .invalidCharacter else .ok (.name (percent [] cs))

end Courier.Url
