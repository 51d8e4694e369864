/-!
# Reading integers

The digits of an integer with an optional sign, within the bounds of its width. `decimal?` reads
a number without a sign, `natural?` allows a plus sign and `integer?` either sign.
-/

namespace Listing.Number

/-- The value of a run of ASCII digits, added to the value of the digits before it. -/
def digitsFrom (value : Nat) : List Char → Option Nat
  | [] => some value
  | c :: cs => if c.isDigit then digitsFrom (value * 10 + (c.toNat - 48)) cs else none

/-- The number that one or more ASCII digits denote. -/
def decimal? (cs : List Char) : Option Nat := if cs.isEmpty then none else digitsFrom 0 cs

/-- A number below `bound`, written with digits and at most one plus sign. -/
def natural? (bound : Nat) (cs : List Char) : Option Nat :=
  let value :=
    match cs with
    | '+' :: rest => decimal? rest
    | _ => decimal? cs
  value.filter (· < bound)

/-- A number from `-bound` to `bound - 1`, written with digits and at most one sign. -/
def integer? (bound : Nat) (cs : List Char) : Option Int :=
  match cs with
  | '-' :: rest => ((decimal? rest).filter (· ≤ bound)).map fun n => -(n : Int)
  | _ => (natural? bound cs).map fun n => (n : Int)

/-- One more than the largest count: counts have 64 bits. -/
def countBound : Nat := Nat.pow 2 64

/-- One more than the largest signed 64-bit integer. -/
def signedBound : Nat := Nat.pow 2 63

/-- The largest signed 64-bit integer. -/
def maxSigned : Nat := signedBound - 1

/-- A count as it is read from text. -/
def count? (cs : List Char) : Option Nat := natural? countBound cs

/-- A signed 64-bit integer as it is read from text. -/
def signed? (cs : List Char) : Option Int := integer? signedBound cs

end Listing.Number
