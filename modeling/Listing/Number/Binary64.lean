/-!
# Binary floating point

A `Binary64` is the bit pattern of a 64-bit floating-point number. Its magnitude, if it is finite,
is `significand * 2 ^ scale` in units of the least positive number, `2 ^ (-1074)`. `ofRatio` is the
number nearest to a quotient, of two equally near ones the one with the even significand; all
other arithmetic is exact and then rounded by it.

Nothing here uses the machine's own floating-point operations, so that every value can be computed
inside a proof.
-/

namespace Listing.Number

/-- A floating-point number of 64 bits: a sign, eleven bits of exponent and 52 of fraction. -/
structure Binary64 where
  /-- The sign, the exponent field and the fraction, from the highest bit to the lowest. -/
  bits : UInt64
deriving DecidableEq, Repr, Inhabited

namespace Binary64

/-- Whether the sign bit is set. -/
def isNegative (x : Binary64) : Bool := Nat.pow 2 63 ≤ x.bits.toNat

/-- The eleven bits of the exponent. -/
def exponentField (x : Binary64) : Nat := x.bits.toNat / Nat.pow 2 52 % Nat.pow 2 11

/-- The 52 bits of the fraction. -/
def fraction (x : Binary64) : Nat := x.bits.toNat % Nat.pow 2 52

/-- Whether the number is neither infinite nor NaN. -/
def isFinite (x : Binary64) : Bool := x.exponentField != 2047

/-- Whether the pattern stands for no number. -/
def isNaN (x : Binary64) : Bool := !x.isFinite && x.fraction != 0

/-- The integer part of the magnitude of a finite number, below `2 ^ 53`. -/
def significand (x : Binary64) : Nat :=
  if x.exponentField = 0 then x.fraction else Nat.pow 2 52 + x.fraction

/-- The power of two that goes with the significand, in units of `2 ^ (-1074)`. -/
def scale (x : Binary64) : Nat := x.exponentField - 1

/-- The magnitude of a finite number in units of `2 ^ (-1074)`. -/
def magnitude (x : Binary64) : Nat := x.significand * Nat.pow 2 x.scale

/-- The unit of `magnitude`, inverted. -/
def unitsInOne : Nat := Nat.pow 2 1074

/-- Whether the number is one of the two zeros. -/
def isZero (x : Binary64) : Bool := x.bits.toNat % Nat.pow 2 63 = 0

/-- The pattern with the given sign and the given lower 63 bits. -/
def ofParts (negative : Bool) (rest : Nat) : Binary64 :=
  ⟨UInt64.ofNat ((if negative then Nat.pow 2 63 else 0) + rest)⟩

/-- The zero of a sign. -/
def zero (negative : Bool) : Binary64 := ofParts negative 0

/-- The infinity of a sign. -/
def infinity (negative : Bool) : Binary64 := ofParts negative (2047 * Nat.pow 2 52)

/-- A pattern that stands for no number. -/
def notANumber : Binary64 := ofParts false (2047 * Nat.pow 2 52 + Nat.pow 2 51)

/-- The integer nearest to a quotient; a half goes to the even neighbour. -/
def roundDiv (num den : Nat) : Nat :=
  let q := num / den
  let r := num % den
  if 2 * r < den then q
  else if den < 2 * r then q + 1
  else q + q % 2

/-- The number nearest to `num / den`, with the given sign. What is too large is infinite. -/
def ofRatio (negative : Bool) (num den : Nat) : Binary64 :=
  let units := num * unitsInOne / den
  let scale := if units < Nat.pow 2 53 then 0 else units.log2 - 52
  let significand := roundDiv (num * unitsInOne) (den * Nat.pow 2 scale)
  let rest := scale * Nat.pow 2 52 + significand
  if rest < 2047 * Nat.pow 2 52 then ofParts negative rest else infinity negative

/-- The number nearest to `digits * 10 ^ exponent`, with the given sign. Exponents that are far
out are answered without computing the power. -/
def ofDecimal (negative : Bool) (digits : Nat) (exponent : Int) : Binary64 :=
  if digits = 0 then zero negative
  else if 400 < exponent then infinity negative
  else if 0 ≤ exponent then ofRatio negative (digits * Nat.pow 10 exponent.toNat) 1
  else if (digits.log2 : Int) + 1 + 3 * exponent < -1080 then zero negative
  else ofRatio negative digits (Nat.pow 10 (-exponent).toNat)

/-- The number nearest to an integer. -/
def ofInt (n : Int) : Binary64 := ofRatio (n < 0) n.natAbs 1

/-- The number that a 32-bit pattern denotes; it is always exact. -/
def ofBinary32 (bits : UInt32) : Binary64 :=
  let n := bits.toNat
  let negative : Bool := Nat.pow 2 31 ≤ n
  let field := n / Nat.pow 2 23 % Nat.pow 2 8
  let fraction := n % Nat.pow 2 23
  if field = 255 then
    if fraction = 0 then infinity negative else notANumber
  else
    let significand := if field = 0 then fraction else Nat.pow 2 23 + fraction
    ofRatio negative (significand * Nat.pow 2 (field - 1)) (Nat.pow 2 149)

/-- The product of two finite numbers, rounded. -/
def mul (x y : Binary64) : Binary64 :=
  ofRatio (x.isNegative != y.isNegative) (x.magnitude * y.magnitude) (unitsInOne * unitsInOne)

/-- The quotient of two finite numbers, the second not zero, rounded. -/
def div (x y : Binary64) : Binary64 :=
  ofRatio (x.isNegative != y.isNegative) x.magnitude y.magnitude

/-- The value of a finite number if it is an integer. -/
def toInt? (x : Binary64) : Option Int :=
  if x.isFinite && x.magnitude % unitsInOne == 0 then
    let n : Int := (x.magnitude / unitsInOne : Nat)
    some (if x.isNegative then -n else n)
  else none

end Binary64

end Listing.Number
