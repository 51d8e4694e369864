import Listing.Number.Binary64
import Listing.Number.Integer
import Listing.Text.LetterCase

/-!
# Reading floating-point numbers

A floating-point number in a text is a sign, digits with at most one decimal point among or around
them, and a power of ten; the words for infinity and for no number are read too, in either case.
-/

namespace Listing.Number

/-- A decimal as it is written: the number without its point, and the digits after the point. -/
structure Written where
  /-- All digits, read as one integer. -/
  digits : Nat
  /-- The number of digits behind the decimal point. -/
  places : Nat
  /-- The power of ten that is written behind the digits. -/
  exponent : Int
deriving DecidableEq, Repr

/-- The power of ten at the end of a decimal: nothing, or the letter `e`, a sign and digits. -/
def exponent? : List Char → Option Int
  | [] => some 0
  | c :: rest =>
    if c = 'e' || c = 'E' then
      match rest with
      | '-' :: digits => (decimal? digits).map fun n => -(n : Int)
      | '+' :: digits => (decimal? digits).map fun n => (n : Int)
      | digits => (decimal? digits).map fun n => (n : Int)
    else none

/-- A decimal without a sign. A digit stands before or after the point. -/
def written? (cs : List Char) : Option Written :=
  let whole := cs.takeWhile Char.isDigit
  let rest := cs.dropWhile Char.isDigit
  let (fraction, tail) :=
    match rest with
    | '.' :: more => (more.takeWhile Char.isDigit, more.dropWhile Char.isDigit)
    | _ => ([], rest)
  match decimal? (whole ++ fraction), exponent? tail with
  | some digits, some exponent => some ⟨digits, fraction.length, exponent⟩
  | _, _ => none

/-- The number nearest to a decimal. -/
def Written.nearest (negative : Bool) (w : Written) : Binary64 :=
  Binary64.ofDecimal negative w.digits (w.exponent - w.places)

/-- A number without a sign. -/
def magnitude? (negative : Bool) (cs : List Char) : Option Binary64 :=
  let word := Text.lowerAscii cs
  if word = "inf".toList || word = "infinity".toList then some (Binary64.infinity negative)
  else if word = "nan".toList then some Binary64.notANumber
  else (written? cs).map (·.nearest negative)

/-- A floating-point number as it is read from text. -/
def binary64? : List Char → Option Binary64
  | '-' :: rest => magnitude? true rest
  | '+' :: rest => magnitude? false rest
  | cs => magnitude? false cs

end Listing.Number
