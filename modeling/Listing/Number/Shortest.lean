import Listing.Number.Binary64

/-!
# The shortest decimal

Every decimal of an interval around a floating-point number is read back as that number. `shortest`
has the fewest digits of those in the interval and is the nearest of them. It is found grid by
grid: on the grid of decimals with `k` digits only the two neighbours of the number can be the
nearest, so they alone are tried, for `k = 1, 2, …, 17`; on the last grid one of them always fits.
-/

namespace Listing.Number

/-- A positive decimal `0.d₁d₂… * 10 ^ point`, whose first and last digit are not zero. -/
structure Decimal where
  /-- The digits, highest first. -/
  digits : List Char
  /-- The number of digits in front of the decimal point. -/
  point : Int
deriving DecidableEq, Repr

namespace Binary64

/-- The number of digits of a positive integer, and 0 for 0. -/
def decimalLength (n : Nat) : Nat := if n = 0 then 0 else (Nat.toDigits 10 n).length

/-- The least `point` for which `num / den < 10 ^ point`, for positive `num` and `den`. -/
def pointOf (num den : Nat) : Int :=
  if den ≤ num then decimalLength (num / den)
  else 1 - (decimalLength ((den + num - 1) / num - 1) : Int)

/-- The interval of the magnitudes that are read back as a finite number, in quarters of the last
place: its lower and its upper end. -/
def readBack (x : Binary64) : Nat × Nat :=
  let m := x.significand
  let below := if m = Nat.pow 2 52 ∧ 0 < x.scale then 1 else 2
  (4 * m - below, 4 * m + 2)

/-- Whether the decimal `n * 10 ^ exponent` is read back as the magnitude of `x`. The ends of the
interval belong to it if the significand is even. -/
def readsBack (x : Binary64) (n : Nat) (exponent : Int) : Bool :=
  let ends := x.readBack
  let unit := Nat.pow 2 x.scale
  let (value, place) :=
    if 0 ≤ exponent then (4 * n * Nat.pow 10 exponent.toNat * unitsInOne, unit)
    else (4 * n * unitsInOne, unit * Nat.pow 10 (-exponent).toNat)
  if x.significand % 2 = 0 then ends.1 * place ≤ value && value ≤ ends.2 * place
  else ends.1 * place < value && value < ends.2 * place

/-- The neighbours of the magnitude of `x` on the grid of the multiples of `10 ^ exponent`: the
lower one, and whether the upper one is the nearer. -/
def neighbour (x : Binary64) (exponent : Int) : Nat × Bool :=
  let (num, den) :=
    if 0 ≤ exponent then (x.magnitude, unitsInOne * Nat.pow 10 exponent.toNat)
    else (x.magnitude * Nat.pow 10 (-exponent).toNat, unitsInOne)
  (num / den, den < 2 * (num % den))

/-- The digits of the magnitude of `x` on the first grid that has a decimal which is read back as
`x`, where `tries` grids are left and the next one has `k` digits. -/
def digitsFrom (x : Binary64) (point : Int) (k : Nat) : Nat → Nat × Int
  | 0 => ((x.neighbour (point - 17)).1, point - 17)
  | tries + 1 =>
    let exponent := point - k
    let (lower, upperNearer) := x.neighbour exponent
    let (near, far) := if upperNearer then (lower + 1, lower) else (lower, lower + 1)
    if x.readsBack near exponent then (near, exponent)
    else if x.readsBack far exponent then (far, exponent)
    else digitsFrom x point (k + 1) tries

/-- The digits of a number without the zeros at its end. -/
def significantDigits (n : Nat) : List Char :=
  ((Nat.toDigits 10 n).reverse.dropWhile (· = '0')).reverse

/-- The shortest decimal that is read back as the magnitude of a finite number other than zero. -/
def shortest (x : Binary64) : Decimal :=
  let point := pointOf x.magnitude unitsInOne
  let (n, exponent) := digitsFrom x point 1 17
  ⟨significantDigits n, (decimalLength n : Int) + exponent⟩

end Binary64

namespace Decimal

/-- `n` zeros. -/
def zeros (n : Int) : List Char := List.replicate n.toNat '0'

/-- The decimal with all its places written out; a whole number has no decimal point. -/
def positional (d : Decimal) : List Char :=
  let length : Int := d.digits.length
  if d.point ≤ 0 then '0' :: '.' :: zeros (-d.point) ++ d.digits
  else if length ≤ d.point then d.digits ++ zeros (d.point - length)
  else d.digits.take d.point.toNat ++ '.' :: d.digits.drop d.point.toNat

/-- The decimal as one digit, a fraction if there are more, and a power of ten. -/
def scientific (d : Decimal) : List Char :=
  let fraction :=
    match d.digits with
    | first :: second :: rest => first :: '.' :: second :: rest
    | short => short
  fraction ++ 'e' :: (toString (d.point - 1)).toList

end Decimal

namespace Binary64

/-- A number in running text: all places written out, no decimal point on a whole number. -/
def plainText (x : Binary64) : String :=
  if x.isNaN then "NaN"
  else
    let body :=
      if x.isFinite then if x.isZero then ['0'] else x.shortest.positional else "inf".toList
    String.ofList (if x.isNegative then '-' :: body else body)

/-- A finite number in a document: whole numbers keep a `.0`, and very large and very small ones
have an exponent. -/
def documentText (x : Binary64) : String :=
  let body :=
    if x.isZero then "0.0".toList
    else
      let d := x.shortest
      if d.point ≤ -5 || 16 < d.point then d.scientific
      else if (d.digits.length : Int) ≤ d.point then d.positional ++ ['.', '0']
      else d.positional
  String.ofList (if x.isNegative then '-' :: body else body)

end Binary64

end Listing.Number
