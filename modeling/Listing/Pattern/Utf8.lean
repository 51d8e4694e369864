import Listing.Unicode.Ranges

/-!
# Ranges of characters as ranges of bytes

An automaton that reads UTF-8 sees bytes. `sequences` splits ranges of code points into sequences of
byte ranges, so that a character is in one of the ranges if and only if its bytes are, one by one,
in the ranges of one of the sequences. The sequences come in ascending order, and none is the
beginning of another one.
-/

namespace Listing.Pattern.Utf8

open Unicode (Ranges)

/-- The number of bytes of a code point. -/
def length (n : Nat) : Nat :=
  if n < 0x80 then 1 else if n < 0x800 then 2 else if n < 0x10000 then 3 else 4

/-- The bytes of a code point. -/
def bytes (n : Nat) : List Nat :=
  if n < 0x80 then [n]
  else if n < 0x800 then [0xC0 + n / 64, 0x80 + n % 64]
  else if n < 0x10000 then [0xE0 + n / 4096, 0x80 + n / 64 % 64, 0x80 + n % 64]
  else [0xF0 + n / 262144, 0x80 + n / 4096 % 64, 0x80 + n / 64 % 64, 0x80 + n % 64]

/-- Where the code points from `lo` to `hi` have to be split: behind the last one in front of the
surrogates, where the number of bytes changes, or where all lower bytes start or end. -/
def splitPoint? (lo hi : Nat) : Option (Nat × Nat) :=
  if lo < 0xE000 && 0xD7FF < hi then some (0xD7FF, 0xE000)
  else
    match [0x7F, 0x7FF, 0xFFFF].find? fun m => lo ≤ m && m < hi with
    | some m => some (m, m + 1)
    | none =>
      if hi ≤ 0x7F then none
      else
        [64, 4096, 262144].findSome? fun block =>
          if lo / block = hi / block then none
          else if lo % block ≠ 0 then
            let last := lo / block * block + (block - 1)
            some (last, last + 1)
          else if hi % block ≠ block - 1 then
            let first := hi / block * block
            some (first - 1, first)
          else none

/-- The sequences of byte ranges for the code points from `lo` to `hi`. Every split takes place at
one of a few places, so `fuel` for their number is enough. -/
def sequencesFrom : Nat → Nat → Nat → List Ranges
  | 0, _, _ => []
  | fuel + 1, lo, hi =>
    if hi < lo then []
    else
      match splitPoint? lo hi with
      | some (last, first) => sequencesFrom fuel lo last ++ sequencesFrom fuel first hi
      | none => [(bytes lo).zip (bytes hi)]

/-- The sequences of byte ranges for a list of ranges. -/
def sequences (ranges : Ranges) : List Ranges :=
  ranges.flatMap fun r => sequencesFrom 32 r.1 r.2

/-- The sequences with a common first byte range, each without it. -/
def groups : List Ranges → List ((Nat × Nat) × List Ranges)
  | [] => []
  | [] :: rest => groups rest
  | (r :: tail) :: rest =>
    match groups rest with
    | [] => [(r, [tail])]
    | (s, tails) :: more =>
      if r = s then (s, tail :: tails) :: more else (r, [tail]) :: (s, tails) :: more

end Listing.Pattern.Utf8
