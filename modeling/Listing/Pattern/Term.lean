import Listing.Pattern.Expression

/-!
# Terms

A **term** is an expression with its modes worked out and its shape made regular: texts are as long
as they can be, lists do not contain lists of their own kind, a choice between characters is a set
of characters, and what all branches of a choice start with stands in front of it. `Term.ofRanges`,
`Term.sequence`, `Term.choice` and `Term.repeated` build terms of that shape.
-/

namespace Listing.Pattern

open Unicode (Ranges)

/-- A test of a position with its modes worked out. -/
inductive Edge where
  /-- The start of the text. -/
  | start
  /-- The end of the text. -/
  | finish
  /-- The start of a line. -/
  | lineStart (carriageReturn : Bool)
  /-- The end of a line. -/
  | lineFinish (carriageReturn : Bool)
  /-- A place in or beside a word. -/
  | word (p : WordPosition) (unicode : Bool)
deriving DecidableEq, Repr

/-- A regular expression without modes. -/
inductive Term where
  /-- The empty text. -/
  | empty
  /-- A text. -/
  | text (cs : List Char)
  /-- One of some characters, which may have to be bytes. -/
  | oneOf (areBytes : Bool) (ranges : Ranges)
  /-- A position. -/
  | edge (e : Edge)
  /-- A term several times. -/
  | repetition (least : Nat) (most : Option Nat) (reluctant : Bool) (t : Term)
  /-- A term whose start and end are remembered. -/
  | capture (index : Nat) (t : Term)
  /-- Terms one after the other. -/
  | concat (ts : List Term)
  /-- One of several terms. -/
  | alternation (ts : List Term)
deriving Repr, Inhabited

namespace Term

/-! ### Lengths -/

/-- The smallest of some lengths, if all are known. -/
def smallest : List (Option Nat) → Option Nat
  | [] => none
  | [n] => n
  | n :: rest => do return min (← n) (← smallest rest)

/-- The largest of some lengths, if all are known. -/
def largest : List (Option Nat) → Option Nat
  | [] => none
  | [n] => n
  | n :: rest => do return max (← n) (← largest rest)

/-- The sum of some lengths, if all are known. -/
def total (lengths : List (Option Nat)) : Option Nat :=
  lengths.foldl (fun sum n => do return (← sum) + (← n)) (some 0)

mutual

/-- The length of the shortest text that fits. It is not known for a term that no text fits and for
what contains such a term. -/
def shortest? : Term → Option Nat
  | empty => some 0
  | text cs => some cs.length
  | oneOf _ ranges => if ranges.isEmpty then none else some 1
  | edge _ => some 0
  | repetition least _ _ t => t.shortest?.map (· * least)
  | capture _ t => t.shortest?
  | concat ts => total (shortestOfAll ts)
  | alternation ts => smallest (shortestOfAll ts)

/-- The shortest lengths of several terms. -/
def shortestOfAll : List Term → List (Option Nat)
  | [] => []
  | t :: rest => t.shortest? :: shortestOfAll rest

end

mutual

/-- The length of the longest text that fits, if there is a bound. -/
def longest? : Term → Option Nat
  | empty => some 0
  | text cs => some cs.length
  | oneOf _ ranges => if ranges.isEmpty then none else some 1
  | edge _ => some 0
  | repetition _ most _ t => do return (← t.longest?) * (← most)
  | capture _ t => t.longest?
  | concat ts => total (longestOfAll ts)
  | alternation ts => largest (longestOfAll ts)

/-- The longest lengths of several terms. -/
def longestOfAll : List Term → List (Option Nat)
  | [] => []
  | t :: rest => t.longest? :: longestOfAll rest

end

/-! ### Building terms -/

/-- A term that no text fits. -/
def nothing : Term := oneOf true []

/-- One of some characters. A single character is a text. -/
def ofRanges (areBytes : Bool) (ranges : Ranges) : Term :=
  match ranges with
  | [] => nothing
  | [(lo, hi)] => if lo = hi then text [Char.ofNat lo] else oneOf areBytes ranges
  | _ => oneOf areBytes ranges

/-- A term several times. Repeating what takes no character changes nothing after the first
time. -/
def repeated (least : Nat) (most : Option Nat) (reluctant : Bool) (t : Term) : Term :=
  let isFlat := t.longest? == some 0
  let least := if isFlat then min least 1 else least
  let most := if isFlat then some (min (most.getD 1) 1) else most
  if least = 0 ∧ most = some 0 then empty
  else if least = 1 ∧ most = some 1 then t
  else repetition least most reluctant t

/-- What a term adds to a sequence. -/
def items : Term → List Term
  | empty => []
  | concat ts => ts
  | t => [t]

/-- A term in front of others; neighbouring texts become one. -/
def precede : Term → List Term → List Term
  | text a, text b :: rest => text (a ++ b) :: rest
  | t, rest => t :: rest

/-- Terms one after the other. -/
def sequence (ts : List Term) : Term :=
  match (ts.flatMap items).foldr precede [] with
  | [] => empty
  | [t] => t
  | ts => concat ts

/-- What a term adds to a choice. -/
def branches : Term → List Term
  | alternation ts => ts
  | t => [t]

/-- The range of a text of one character. -/
def charRange? : Term → Option (Nat × Nat)
  | text [c] => some (c.toNat, c.toNat)
  | _ => none

/-- The ranges of a set. -/
def setRanges? : Term → Option Ranges
  | oneOf _ ranges => some ranges
  | _ => none

/-- The set that a choice amounts to if its branches are either all characters or all sets. -/
def merged? (ts : List Term) : Option Term :=
  match ts.mapM charRange? with
  | some ranges => some (ofRanges false (.normal ranges))
  | none => (ts.mapM setRanges?).map fun found => ofRanges false (.normal found.flatten)

/-- One of several terms, which may have a start in common. -/
def plainChoice (ts : List Term) : Term :=
  match ts.flatMap branches with
  | [] => nothing
  | [t] => t
  | ts => (merged? ts).getD (alternation ts)

mutual

/-- Whether two terms are the same. -/
def same : Term → Term → Bool
  | empty, empty => true
  | text a, text b => a == b
  | oneOf areBytes a, oneOf areBytes' b => areBytes == areBytes' && a == b
  | edge a, edge b => a == b
  | repetition least most reluctant a, repetition least' most' reluctant' b =>
    least == least' && most == most' && reluctant == reluctant' && same a b
  | capture i a, capture j b => i == j && same a b
  | concat as, concat bs => allSame as bs
  | alternation as, alternation bs => allSame as bs
  | _, _ => false

/-- Whether two lists of terms are the same. -/
def allSame : List Term → List Term → Bool
  | [], [] => true
  | a :: as, b :: bs => same a b && allSame as bs
  | _, _ => false

end

/-- What two lists of terms start with. -/
def commonStart : List Term → List Term → List Term
  | a :: as, b :: bs => if same a b then a :: commonStart as bs else []
  | _, _ => []

/-- The terms of a sequence. -/
def sequence? : Term → Option (List Term)
  | concat ts => some ts
  | _ => none

/-- The choice between sequences that start with the same terms, with these in front. -/
def factored? (ts : List Term) : Option Term := do
  let lists ← ts.mapM sequence?
  let start := lists.tail.foldl commonStart (lists.headD [])
  if start.isEmpty then none
  else
    let rests := lists.map fun list => sequence (list.drop start.length)
    return sequence (start ++ [plainChoice rests])

/-- One of several terms. -/
def choice (ts : List Term) : Term :=
  match ts.flatMap branches with
  | [] => nothing
  | [t] => t
  | ts => ((merged? ts).orElse fun _ => factored? ts).getD (alternation ts)

/-! ### Places where a term has to start and to end -/

mutual

/-- Whether a fitting text starts at the start of the whole text. -/
def startsAtStart : Term → Bool
  | edge e => e = .start
  | repetition least _ _ t => least ≠ 0 && t.startsAtStart
  | capture _ t => t.startsAtStart
  | concat ts => firstStartsAtStart ts
  | alternation ts => allStartAtStart ts
  | _ => false

/-- Whether a fitting text of a sequence starts at the start: so does a term that only terms
without characters precede. -/
def firstStartsAtStart : List Term → Bool
  | [] => false
  | t :: rest => t.startsAtStart || (t.longest? == some 0 && firstStartsAtStart rest)

/-- Whether fitting texts of several terms start at the start. -/
def allStartAtStart : List Term → Bool
  | [] => true
  | t :: rest => t.startsAtStart && allStartAtStart rest

end

mutual

/-- Whether a fitting text ends at the end of the whole text. -/
def endsAtEnd : Term → Bool
  | edge e => e = .finish
  | repetition least _ _ t => least ≠ 0 && t.endsAtEnd
  | capture _ t => t.endsAtEnd
  | concat ts => lastEndsAtEnd ts
  | alternation ts => allEndAtEnd ts
  | _ => false

/-- Whether a fitting text of a sequence ends at the end: so does a term that only terms without
characters follow. -/
def lastEndsAtEnd : List Term → Bool
  | [] => false
  | t :: rest => lastEndsAtEnd rest || (total (longestOfAll rest) == some 0 && t.endsAtEnd)

/-- Whether fitting texts of several terms end at the end. -/
def allEndAtEnd : List Term → Bool
  | [] => true
  | t :: rest => t.endsAtEnd && allEndAtEnd rest

end

end Term

end Listing.Pattern
