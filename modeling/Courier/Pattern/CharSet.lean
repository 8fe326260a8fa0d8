/-! Sets of characters.

    A set is a list of closed ranges of code points, in order and apart from each other. -/

namespace Courier.Pattern

/-- Closed ranges of code points. -/
abbrev CharSet := List (Nat × Nat)

namespace CharSet

/-- The largest code point. -/
def largest : Nat := 0x10FFFF

/-- Whether a character is in the set. -/
def holds (s : CharSet) (c : Char) : Bool := s.any fun r => r.1 ≤ c.toNat && c.toNat ≤ r.2

/-- Puts a range before others that start no earlier, as one with those that it touches. -/
def attach (r : Nat × Nat) : CharSet → CharSet
  | [] => [r]
  | s :: rest => if s.1 ≤ r.2 + 1 then attach (r.1, max r.2 s.2) rest else r :: s :: rest

/-- The set of all characters in some ranges. -/
def ofRanges (ranges : List (Nat × Nat)) : CharSet :=
  (ranges.mergeSort fun a b => a.1 ≤ b.1).foldr attach []

/-- Characters in one of two sets. -/
def union (a b : CharSet) : CharSet := ofRanges (a ++ b)

/-- Code points from `start` on that are in none of the ranges. -/
def gaps (start : Nat) : CharSet → CharSet
  | [] => if start ≤ largest then [(start, largest)] else []
  | r :: rest => if start < r.1 then (start, r.1 - 1) :: gaps (r.2 + 1) rest else gaps (r.2 + 1) rest

/-- Characters that are not in a set. -/
def complement (s : CharSet) : CharSet := gaps 0 s

/-- Characters in both sets. -/
def intersection (a b : CharSet) : CharSet := (a.complement.union b.complement).complement

/-- Characters in the first set only. -/
def difference (a b : CharSet) : CharSet := a.intersection b.complement

/-- Characters in one of the sets only. -/
def symmetricDifference (a b : CharSet) : CharSet := (a.difference b).union (b.difference a)

/-- The part of a range between two bounds, moved up or down. -/
def moved (low high : Nat) (shift : Int) (r : Nat × Nat) : CharSet :=
  let a := max r.1 low
  let b := min r.2 high
  if a ≤ b then [((a + shift).toNat, (b + shift).toNat)] else []

/-- The set with both cases of every ASCII letter in it. -/
def withCases (s : CharSet) : CharSet :=
  ofRanges (s ++ s.flatMap (moved 65 90 32) ++ s.flatMap (moved 97 122 (-32)))

end CharSet
end Courier.Pattern
