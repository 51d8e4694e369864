/-!
# Sets of characters as ranges

A set of code points as a list of ranges, with the operations on such sets. In normal form the
ranges ascend and neither overlap nor touch; the operations keep that form.

Characters do not include the surrogates, so the neighbour of the last character in front of them
is the first one behind them. Two ranges that only the surrogates separate stay apart.
-/

namespace Listing.Unicode

/-- A list of ranges of code points, each with its first and its last one. -/
abbrev Ranges := List (Nat × Nat)

/-- The largest code point. -/
def maxCodePoint : Nat := 0x10FFFF

/-- The character behind a character. -/
def successor (n : Nat) : Nat := if n = 0xD7FF then 0xE000 else n + 1

/-- The character in front of a character. -/
def predecessor (n : Nat) : Nat := if n = 0xE000 then 0xD7FF else n - 1

namespace Ranges

/-- Whether a code point is in one of the ranges. -/
def contains (ranges : Ranges) (n : Nat) : Bool := ranges.any fun r => r.1 ≤ n && n ≤ r.2

/-- A range more at the end, joined with the last one if they touch; the ranges so far come last
one first. -/
def extend (joined : Ranges) (r : Nat × Nat) : Ranges :=
  match joined with
  | [] => [r]
  | s :: rest => if r.1 ≤ s.2 + 1 then (s.1, max s.2 r.2) :: rest else r :: s :: rest

/-- A range more among ranges that are sorted by their starts. -/
def insertSorted (r : Nat × Nat) : Ranges → Ranges
  | [] => [r]
  | s :: rest => if r.1 ≤ s.1 then r :: s :: rest else s :: insertSorted r rest

/-- The normal form of a list of ranges: sorted by their starts, each is joined with the one
before it if they touch. -/
def normal (ranges : Ranges) : Ranges :=
  ((ranges.foldr insertSorted []).foldl extend []).reverse

/-- The code points in one of two sets. -/
def union (a b : Ranges) : Ranges := normal (a ++ b)

/-- What is behind the code point `last`, in front of the ranges, between them and behind them. If
there is no character between two ranges, because only the surrogates are there, the two
neighbours count as the gap. -/
def gapsBehind (last : Nat) : Ranges → Ranges
  | [] => if last < maxCodePoint then [(successor last, maxCodePoint)] else []
  | (lo, hi) :: rest =>
    (min (successor last) (predecessor lo), max (successor last) (predecessor lo)) ::
      gapsBehind hi rest

/-- The code points that are not in a set. -/
def complement : Ranges → Ranges
  | [] => [(0, maxCodePoint)]
  | (lo, hi) :: rest =>
    if lo = 0 then gapsBehind hi rest else (0, predecessor lo) :: gapsBehind hi rest

/-- The part of a range that is in another one. -/
def overlap? (r s : Nat × Nat) : Option (Nat × Nat) :=
  if max r.1 s.1 ≤ min r.2 s.2 then some (max r.1 s.1, min r.2 s.2) else none

/-- The code points in both sets. -/
def inter (a b : Ranges) : Ranges := a.flatMap fun r => b.filterMap (overlap? r)

/-- The parts of a range that are not in another one. -/
def cut (s r : Nat × Nat) : Ranges :=
  if s.2 < r.1 || r.2 < s.1 then [r]
  else
    (if r.1 < s.1 then [(r.1, predecessor s.1)] else []) ++
      (if s.2 < r.2 then [(successor s.2, r.2)] else [])

/-- The code points in the first set and not in the second. -/
def diff (a b : Ranges) : Ranges :=
  a.flatMap fun r => b.foldl (fun parts s => parts.flatMap (cut s)) [r]

/-- The code points in one set but not in both. -/
def symmDiff (a b : Ranges) : Ranges := diff (union a b) (inter a b)

end Ranges

end Listing.Unicode
