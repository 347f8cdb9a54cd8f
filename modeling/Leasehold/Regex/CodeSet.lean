import Leasehold.Regex.Basic

/-!
# Sets of characters

A set is a list of ranges of code points, in order and apart from each other.
-/

namespace Leasehold

namespace Regex

/-- A set of characters. -/
structure CodeSet where
  ranges : List (Nat × Nat)
  deriving DecidableEq, Inhabited

namespace CodeSet

/-- No character. -/
def empty : CodeSet := ⟨[]⟩

/-- All characters from one to another. -/
def range (low high : Nat) : CodeSet := ⟨[(low, high)]⟩

/-- A character is in the set. -/
def contains (s : CodeSet) (c : Char) : Bool :=
  s.ranges.any fun r => r.1 ≤ c.toNat && c.toNat ≤ r.2

/-- Adds a range to ranges in order, joined with those that it meets. -/
def add (r : Nat × Nat) : List (Nat × Nat) → List (Nat × Nat)
  | [] => [r]
  | q :: qs =>
    if r.2 + 1 < q.1 then r :: q :: qs
    else if q.2 + 1 < r.1 then q :: add r qs
    else add (min r.1 q.1, max r.2 q.2) qs

/-- The set of ranges in any order. -/
def ofRanges (l : List (Nat × Nat)) : CodeSet := ⟨l.foldr add []⟩

/-- The characters of either set. -/
def union (a b : CodeSet) : CodeSet := ofRanges (a.ranges ++ b.ranges)

/-- The gaps between ranges, from a start up to the last code point. -/
def gaps (last : Nat) : Nat → List (Nat × Nat) → List (Nat × Nat)
  | start, [] => if start ≤ last then [(start, last)] else []
  | start, r :: rest =>
    if start < r.1 then (start, r.1 - 1) :: gaps last (r.2 + 1) rest
    else gaps last (r.2 + 1) rest

/-- The characters up to the last one that are not in the set. -/
def complement (last : Nat) (s : CodeSet) : CodeSet := ⟨gaps last 0 s.ranges⟩

/-- The characters of both sets. -/
def intersect (last : Nat) (a b : CodeSet) : CodeSet :=
  complement last (union (complement last a) (complement last b))

/-- The characters of the first set that are not in the second one. -/
def difference (last : Nat) (a b : CodeSet) : CodeSet := intersect last a (complement last b)

/-- What a set operation gives. -/
def combine (last : Nat) : SetOperation → CodeSet → CodeSet → CodeSet
  | .intersection, a, b => intersect last a b
  | .difference, a, b => difference last a b
  | .symmetricDifference, a, b => difference last (union a b) (intersect last a b)

/-- A range moved into another case, as far as it has letters between two ends. -/
def shift (low high other : Nat) (r : Nat × Nat) : List (Nat × Nat) :=
  let a := max low r.1
  let b := min high r.2
  if a ≤ b then [(other + (a - low), other + (b - low))] else []

/-- The set with both cases of its ASCII letters. -/
def foldCase (s : CodeSet) : CodeSet :=
  ofRanges (s.ranges ++ s.ranges.flatMap (shift 0x41 0x5a 0x61) ++
    s.ranges.flatMap (shift 0x61 0x7a 0x41))

/-- All characters are ASCII characters. -/
def isAscii (s : CodeSet) : Bool := s.ranges.all fun r => r.2 ≤ 0x7f

example : (ofRanges [(5, 6), (1, 2), (3, 4)]).ranges = [(1, 6)] := by decide +kernel
example : (complement 9 ⟨[(0, 1), (4, 5)]⟩).ranges = [(2, 3), (6, 9)] := by decide +kernel
example : (intersect 9 ⟨[(1, 5)]⟩ ⟨[(4, 8)]⟩).ranges = [(4, 5)] := by decide +kernel
example : (foldCase ⟨[(0x61, 0x62)]⟩).ranges = [(0x41, 0x42), (0x61, 0x62)] := by decide +kernel

end CodeSet

/-- The code points of a named class. -/
def NamedClass.ranges : NamedClass → List (Nat × Nat)
  | alnum => [(0x30, 0x39), (0x41, 0x5a), (0x61, 0x7a)]
  | alpha => [(0x41, 0x5a), (0x61, 0x7a)]
  | ascii => [(0x00, 0x7f)]
  | blank => [(0x09, 0x09), (0x20, 0x20)]
  | cntrl => [(0x00, 0x1f), (0x7f, 0x7f)]
  | digit => [(0x30, 0x39)]
  | graph => [(0x21, 0x7e)]
  | lower => [(0x61, 0x7a)]
  | print => [(0x20, 0x7e)]
  | punct => [(0x21, 0x2f), (0x3a, 0x40), (0x5b, 0x60), (0x7b, 0x7e)]
  | space => [(0x09, 0x0d), (0x20, 0x20)]
  | upper => [(0x41, 0x5a)]
  | word => [(0x30, 0x39), (0x41, 0x5a), (0x5f, 0x5f), (0x61, 0x7a)]
  | xdigit => [(0x30, 0x39), (0x41, 0x46), (0x61, 0x66)]

/-- The ASCII characters of a class with a letter. -/
def LetterClass.ranges : LetterClass → List (Nat × Nat)
  | digit => NamedClass.digit.ranges
  | space => NamedClass.space.ranges
  | word => NamedClass.word.ranges

end Regex

end Leasehold
