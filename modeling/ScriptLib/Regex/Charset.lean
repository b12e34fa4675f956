/-!
# Sets of characters

A character class of a pattern is a set of code points, kept as closed ranges sorted by
their start, apart from each other and not touching, so that two sets are equal exactly
when their range lists are. Membership is a bisection over the ranges.

The set operations of classes (union, intersection, difference, symmetric difference and
complement) all go through `ofRanges`, which sorts and merges any list of ranges, and
`complementWithin`, which complements a set within `[0, top]`: `top` is the largest code
point for classes of characters and `0xFF` for classes of bytes.
-/

namespace ScriptLib

namespace Regex

/-- The largest code point. -/
def maxCode : Nat := 0x10FFFF

/-- A set of code points, as sorted closed ranges that neither overlap nor touch. -/
structure CharSet where
  ranges : Array (Nat × Nat)
  deriving Inhabited, BEq, Repr

namespace CharSet

/-- The set with no code point. -/
def empty : CharSet := ⟨#[]⟩

/-- The code points from `a` to `b`. -/
def range (a b : Nat) : CharSet := if a ≤ b then ⟨#[(a, b)]⟩ else empty

/-- The set of one code point. -/
def single (c : Nat) : CharSet := ⟨#[(c, c)]⟩

/-- Merges ranges sorted by their start onto an accumulator kept newest first. -/
def mergeSorted : List (Nat × Nat) → List (Nat × Nat) → List (Nat × Nat)
  | acc, [] => acc.reverse
  | [], r :: rs => mergeSorted [r] rs
  | (a, b) :: acc, (c, d) :: rs =>
    if c ≤ b + 1 then mergeSorted ((a, max b d) :: acc) rs
    else mergeSorted ((c, d) :: (a, b) :: acc) rs

/-- The set covered by any list of ranges; a range whose start is past its end is empty. -/
def ofRanges (rs : List (Nat × Nat)) : CharSet :=
  let sorted := (rs.filter fun r => r.1 ≤ r.2).mergeSort fun r s => r.1 ≤ s.1
  ⟨(mergeSorted [] sorted).toArray⟩

/-- The set of a list of code points. -/
def ofList (cs : List Nat) : CharSet :=
  ofRanges (cs.map fun c => (c, c))

/-- Both sets together. -/
def union (s t : CharSet) : CharSet :=
  ofRanges (s.ranges.toList ++ t.ranges.toList)

/-- The gaps between sorted ranges from `next` up to `top`. -/
def gaps (top : Nat) : Nat → List (Nat × Nat) → List (Nat × Nat)
  | next, [] => if next ≤ top then [(next, top)] else []
  | next, (a, b) :: rs =>
    let rest := gaps top (b + 1) rs
    if next < a then (next, a - 1) :: rest else rest

/-- The code points up to `top` that are not in the set. -/
def complementWithin (top : Nat) (s : CharSet) : CharSet :=
  let clipped := s.ranges.toList.filterMap fun r =>
    if r.1 ≤ top then some (r.1, min r.2 top) else none
  ⟨(gaps top 0 clipped).toArray⟩

/-- The code points that are not in the set. -/
def negate (s : CharSet) : CharSet :=
  complementWithin maxCode s

/-- The code points in both sets. -/
def intersect (s t : CharSet) : CharSet :=
  negate (union (negate s) (negate t))

/-- The code points of the first set that are not in the second. -/
def difference (s t : CharSet) : CharSet :=
  intersect s (negate t)

/-- The code points in exactly one of the sets. -/
def symmetricDifference (s t : CharSet) : CharSet :=
  difference (union s t) (intersect s t)

/-- Bisection for a code point among the ranges at positions `[lo, hi)`. -/
def containsGo (rs : Array (Nat × Nat)) (c : Nat) : Nat → Nat → Nat → Bool
  | 0, _, _ => false
  | fuel + 1, lo, hi =>
    if lo < hi then
      let mid := (lo + hi) / 2
      let r := rs.getD mid (0, 0)
      if c < r.1 then containsGo rs c fuel lo mid
      else if r.2 < c then containsGo rs c fuel (mid + 1) hi
      else true
    else false

/-- Whether a code point is in the set. -/
def contains (s : CharSet) (c : Nat) : Bool :=
  containsGo s.ranges c 64 0 s.ranges.size

/-- Whether every code point of the set is ASCII. -/
def isAscii (s : CharSet) : Bool :=
  s.ranges.all fun r => r.2 ≤ 0x7F

/-- Whether the set has no code point. -/
def isEmpty (s : CharSet) : Bool :=
  s.ranges.isEmpty

/-- The set closed under ASCII case: each ASCII letter brings its other case. -/
def asciiFold (s : CharSet) : CharSet :=
  let upper := (List.range 26).filterMap fun i =>
    if s.contains (0x41 + i) || s.contains (0x61 + i) then some i else none
  union s (ofRanges (upper.flatMap fun i => [(0x41 + i, 0x41 + i), (0x61 + i, 0x61 + i)]))

end CharSet

end Regex

end ScriptLib
