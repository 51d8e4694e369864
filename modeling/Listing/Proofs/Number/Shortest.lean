import Listing.Proofs.Number.Rounding

/-!
# The Shortest Decimal Is Read Back

Seventeen digits are enough for every finite number: on the grid of decimals with seventeen
digits half of the distance between neighbours is less than what the number covers to either
side. So the search for the shortest decimal ends with one that the number covers, and the
number is read back from it.

## Main results

* `Binary64.le_of_pointOf` — where the decimal point of a number is.
* `Binary64.covers_near` — a neighbour of a number on the last grid is covered by it.
* `Binary64.covers_shortest` — the shortest decimal of a number is covered by it.
-/

namespace Listing.Number

namespace Decimal

/-- The integer that the digits of a decimal denote. -/
def value (d : Decimal) : Nat := Nat.ofDigitChars 10 d.digits 0

/-- The power of ten of the last digit of a decimal. -/
def last (d : Decimal) : Int := d.point - d.digits.length

end Decimal

namespace Binary64

variable {x : Binary64}

/-! ### The decimal point -/

/-- A number has fewer digits than a power of ten that is above it. -/
theorem lt_pow_decimalLength (n : Nat) : n < 10 ^ decimalLength n := by
  unfold decimalLength
  split
  · omega
  · exact (Nat.length_toDigits_le_iff (by decide) Nat.length_toDigits_pos).mp le_rfl

/-- A positive number is no less than the power of ten with as many digits. -/
theorem pow_decimalLength_le {n : Nat} (hn : n ≠ 0) : 10 ^ (decimalLength n - 1) ≤ n := by
  have hpos : 0 < (Nat.toDigits 10 n).length := Nat.length_toDigits_pos
  rw [decimalLength, if_neg hn]
  by_contra hlt
  rcases Nat.eq_zero_or_pos ((Nat.toDigits 10 n).length - 1) with hzero | hone
  · rw [hzero] at hlt
    omega
  · have := (Nat.length_toDigits_le_iff (by decide) hone).mpr (Nat.lt_of_not_le hlt)
    omega

/-- A positive number has digits. -/
theorem decimalLength_pos {n : Nat} (hn : n ≠ 0) : 0 < decimalLength n := by
  rw [decimalLength, if_neg hn]
  exact Nat.length_toDigits_pos

/-- A quotient is no less than the power of ten in front of its **point**, and less than the
one behind it. -/
theorem pointOf_spec {num den : Nat} (hnum : 0 < num) (hden : 0 < den) :
    decimalNum 1 (pointOf num den - 1) * den ≤ num * decimalDen (pointOf num den - 1) ∧
      num * decimalDen (pointOf num den) < decimalNum 1 (pointOf num den) * den := by
  unfold pointOf
  split
  · next hle =>
    have hquot : num / den ≠ 0 := (Nat.div_pos hle hden).ne'
    have hlow := pow_decimalLength_le hquot
    have hhigh := lt_pow_decimalLength (num / den)
    obtain ⟨k, hk⟩ := Nat.exists_eq_succ_of_ne_zero (decimalLength_pos hquot).ne'
    rw [Nat.le_div_iff_mul_le hden] at hlow
    rw [Nat.div_lt_iff_lt_mul hden] at hhigh
    rw [hk] at hlow hhigh ⊢
    rw [show ((k.succ : Nat) : Int) - 1 = (k : Nat) by omega]
    simpa only [decimalNum_natCast, decimalDen_natCast, Nat.one_mul, Nat.mul_one] using
      ⟨hlow, hhigh⟩
  · next hlt =>
    -- `ceiling` is the least integer that is no less than `den / num`
    have hceiling : den ≤ (den + num - 1) / num * num ∧
        (den + num - 1) / num * num < den + num := by
      have hdiv := Nat.div_add_mod' (den + num - 1) num
      have hmod := Nat.mod_lt (den + num - 1) hnum
      omega
    generalize (den + num - 1) / num = ceiling at *
    have htwo : ceiling - 1 ≠ 0 := by
      intro hone
      have := Nat.mul_le_mul_right num (show ceiling ≤ 1 by omega)
      omega
    have hlow := pow_decimalLength_le htwo
    have hhigh := lt_pow_decimalLength (ceiling - 1)
    obtain ⟨k, hk⟩ := Nat.exists_eq_succ_of_ne_zero (decimalLength_pos htwo).ne'
    rw [hk, Nat.succ_sub_one] at hlow
    rw [hk] at hhigh ⊢
    rw [show 1 - ((k.succ : Nat) : Int) - 1 = -((k + 1 : Nat) : Int) by omega,
      show 1 - ((k.succ : Nat) : Int) = -(k : Int) by omega]
    simp only [decimalNum_neg, decimalDen_neg, Nat.one_mul]
    constructor
    · have := Nat.mul_le_mul_right num (show ceiling ≤ 10 ^ (k + 1) by omega)
      rw [Nat.mul_comm num]
      omega
    · have := Nat.mul_le_mul_right num (show 10 ^ k + 1 ≤ ceiling by omega)
      rw [Nat.add_mul] at this
      rw [Nat.mul_comm num]
      omega

/-! ### The last grid -/

/-- The neighbours of a number on a grid are found by a division by its step. -/
theorem neighbour_eq (x : Binary64) (exponent : Int) : x.neighbour exponent =
    (x.magnitude * decimalDen exponent / (unitsInOne * decimalNum 1 exponent),
      decide (unitsInOne * decimalNum 1 exponent <
        2 * (x.magnitude * decimalDen exponent % (unitsInOne * decimalNum 1 exponent)))) := by
  by_cases hexp : 0 ≤ exponent
  · have hneg : (-exponent).toNat = 0 := by omega
    simp only [neighbour, decimalNum, decimalDen, hexp, if_true, hneg, Nat.pow_zero, Nat.mul_one,
      Nat.one_mul, Nat.pow_eq]
  · have hpos : exponent.toNat = 0 := by omega
    simp only [neighbour, decimalNum, decimalDen, hexp, if_false, hpos, Nat.pow_zero, Nat.mul_one,
      Nat.pow_eq]

/-- On a grid that is fine enough the nearer **neighbour** of a number is covered by it. -/
theorem covers_near {near : Nat} {exponent : Int}
    (hgrid : 10 ^ 16 * (unitsInOne * decimalNum 1 exponent) ≤ x.magnitude * decimalDen exponent)
    (hlow : 2 * (x.magnitude * decimalDen exponent) ≤
      2 * (near * (unitsInOne * decimalNum 1 exponent)) + unitsInOne * decimalNum 1 exponent)
    (hhigh : 2 * (near * (unitsInOne * decimalNum 1 exponent)) ≤
      2 * (x.magnitude * decimalDen exponent) + unitsInOne * decimalNum 1 exponent) :
    x.Covers (decimalNum near exponent) (decimalDen exponent) := by
  have hm := significand_lt x
  have hstep : 0 < unitsInOne * decimalNum 1 exponent :=
    Nat.mul_pos unitsInOne_pos (by simp [decimalNum])
  have hvalue : decimalNum near exponent * unitsInOne =
      near * (unitsInOne * decimalNum 1 exponent) := by
    rw [decimalNum, decimalNum]
    ring
  have hmagnitude : x.magnitude * decimalDen exponent =
      x.significand * (2 ^ x.scale * decimalDen exponent) := by
    rw [magnitude, Nat.pow_eq, Nat.mul_assoc]
  have hupper := Nat.mul_le_mul_right (2 ^ x.scale * decimalDen exponent)
    (Nat.le_sub_one_of_lt hm)
  rw [hmagnitude] at hgrid hlow hhigh
  simp only [Covers, readBack, Nat.pow_eq, hvalue, Nat.sub_mul, Nat.add_mul,
    Nat.mul_assoc 4 x.significand]
  generalize 2 ^ x.scale * decimalDen exponent = place at *
  generalize unitsInOne * decimalNum 1 exponent = step at *
  split
  · next hleast =>
    have hexact : x.significand * place = 2 ^ 52 * place := by rw [hleast.1]
    omega
  · omega

/-! ### The search -/

/-- A number other than zero has a positive magnitude. -/
theorem magnitude_pos (hzero : ¬ x.isZero) : 0 < x.magnitude := by
  rw [isZero_iff] at hzero
  exact Nat.mul_pos (Nat.pos_of_ne_zero hzero) (Nat.two_pow_pos _)

/-- The grid with seventeen digits is fine enough. -/
theorem step_le_magnitude (hzero : ¬ x.isZero) {exponent : Int}
    (hexponent : exponent = pointOf x.magnitude unitsInOne - 17) :
    10 ^ 16 * (unitsInOne * decimalNum 1 exponent) ≤ x.magnitude * decimalDen exponent := by
  have hpoint := (pointOf_spec (magnitude_pos hzero) unitsInOne_pos).1
  have hshift := decimalNum_shift 1 16 exponent
  rw [show pointOf x.magnitude unitsInOne - 1 = exponent + (16 : Nat) by omega] at hpoint
  refine Nat.le_of_mul_le_mul_right ?_ (decimalDen_pos (exponent + (16 : Nat)))
  calc 10 ^ 16 * (unitsInOne * decimalNum 1 exponent) * decimalDen (exponent + (16 : Nat))
      = decimalNum (1 * 10 ^ 16) exponent * decimalDen (exponent + (16 : Nat)) * unitsInOne := by
        rw [decimalNum, decimalNum]
        ring
    _ = decimalNum 1 (exponent + (16 : Nat)) * unitsInOne * decimalDen exponent := by
        rw [hshift]
        ring
    _ ≤ x.magnitude * decimalDen (exponent + (16 : Nat)) * decimalDen exponent :=
        Nat.mul_le_mul_right _ hpoint
    _ = x.magnitude * decimalDen exponent * decimalDen (exponent + (16 : Nat)) := by ring

/-- The nearer of the neighbours of a number on a grid. -/
def nearer (x : Binary64) (exponent : Int) : Nat :=
  if (x.neighbour exponent).2 then (x.neighbour exponent).1 + 1 else (x.neighbour exponent).1

/-- The nearer **neighbour** is at most half a step away. -/
theorem nearer_spec (x : Binary64) (exponent : Int) :
    2 * (x.magnitude * decimalDen exponent) ≤
        2 * (x.nearer exponent * (unitsInOne * decimalNum 1 exponent)) +
          unitsInOne * decimalNum 1 exponent ∧
      2 * (x.nearer exponent * (unitsInOne * decimalNum 1 exponent)) ≤
        2 * (x.magnitude * decimalDen exponent) + unitsInOne * decimalNum 1 exponent := by
  have hstep : 0 < unitsInOne * decimalNum 1 exponent :=
    Nat.mul_pos unitsInOne_pos (by simp [decimalNum])
  have hdiv := Nat.div_add_mod' (x.magnitude * decimalDen exponent)
    (unitsInOne * decimalNum 1 exponent)
  have hmod := Nat.mod_lt (x.magnitude * decimalDen exponent) hstep
  rw [nearer, neighbour_eq]
  simp only [decide_eq_true_eq]
  split
  · rw [Nat.add_mul, Nat.one_mul]
    omega
  · omega

/-- The neighbour of a number on a grid that is not the nearer one. -/
def farther (x : Binary64) (exponent : Int) : Nat :=
  if (x.neighbour exponent).2 then (x.neighbour exponent).1 else (x.neighbour exponent).1 + 1

/-- The **search** stops at a grid if a neighbour is read back, and looks at the nearer one
first. -/
theorem digitsFrom_succ (x : Binary64) (point : Int) (k tries : Nat) :
    x.digitsFrom point k (tries + 1) =
      if x.readsBack (x.nearer (point - k)) (point - k) then (x.nearer (point - k), point - k)
      else if x.readsBack (x.farther (point - k)) (point - k) then
        (x.farther (point - k), point - k)
      else x.digitsFrom point (k + 1) tries := by
  rw [digitsFrom, nearer, farther]
  cases x.neighbour (point - k) with
  | mk lower upperNearer => cases upperNearer <;> rfl

/-- The search ends with a decimal that is **covered**, if the last grid is fine enough. -/
theorem covers_digitsFrom {point : Int}
    (hgrid : 10 ^ 16 * (unitsInOne * decimalNum 1 (point - 17)) ≤
      x.magnitude * decimalDen (point - 17)) :
    ∀ tries k : Nat, 0 < tries → k + tries = 18 →
      x.Covers (decimalNum (x.digitsFrom point k tries).1 (x.digitsFrom point k tries).2)
        (decimalDen (x.digitsFrom point k tries).2) := by
  intro tries
  induction tries with
  | zero => exact fun k h => absurd h (Nat.lt_irrefl 0)
  | succ tries ih =>
    intro k _ hk
    rw [← readsBack_iff, digitsFrom_succ]
    by_cases hnear : x.readsBack (x.nearer (point - k)) (point - k)
    · rwa [if_pos hnear]
    rw [if_neg hnear]
    by_cases hfar : x.readsBack (x.farther (point - k)) (point - k)
    · rwa [if_pos hfar]
    rw [if_neg hfar, readsBack_iff]
    rcases Nat.eq_zero_or_pos tries with rfl | hpos
    · -- on the last grid the nearer neighbour would have been taken
      have hlast := covers_near hgrid (nearer_spec x _).1 (nearer_spec x _).2
      rw [← readsBack_iff, show ((17 : Int)) = (k : Int) by omega] at hlast
      exact absurd hlast hnear
    · exact ih (k + 1) hpos (by omega)

/-! ### The digits -/

/-- A number is its significant digits and zeros. -/
theorem toDigits_eq_append (n : Nat) :
    ∃ k, Nat.toDigits 10 n = significantDigits n ++ List.replicate k '0' := by
  refine ⟨((Nat.toDigits 10 n).reverse.takeWhile (· = '0')).length, ?_⟩
  have hzeros : (Nat.toDigits 10 n).reverse.takeWhile (· = '0') =
      List.replicate ((Nat.toDigits 10 n).reverse.takeWhile (· = '0')).length '0' :=
    List.eq_replicate_of_mem fun c hc => by
      simpa using List.all_eq_true.mp List.all_takeWhile c hc
  have hsplit := (List.takeWhile_append_dropWhile (p := (· = '0'))
    (l := (Nat.toDigits 10 n).reverse)).symm
  rw [hzeros] at hsplit
  have hreverse := congrArg List.reverse hsplit
  rwa [List.reverse_reverse, List.reverse_append, List.reverse_replicate] at hreverse

/-- What the search for the shortest decimal finds. -/
def found (x : Binary64) : Nat × Int := x.digitsFrom (pointOf x.magnitude unitsInOne) 1 17

/-- What the search finds is covered. -/
theorem covers_found (hzero : ¬ x.isZero) :
    x.Covers (decimalNum x.found.1 x.found.2) (decimalDen x.found.2) :=
  covers_digitsFrom (step_le_magnitude hzero rfl) 17 1 (by decide) rfl

/-- The shortest decimal is what the search finds, less the zeros at its end. -/
theorem exists_last_shortest (hzero : ¬ x.isZero) :
    ∃ k : Nat, x.found.1 = x.shortest.value * 10 ^ k ∧ x.shortest.last = x.found.2 + k := by
  have hcovers := covers_found hzero
  have hshortest : x.shortest =
      ⟨significantDigits x.found.1, decimalLength x.found.1 + x.found.2⟩ := by
    unfold shortest found
    with_reducible rfl
  rw [hshortest]
  generalize x.found = found at *
  obtain ⟨n, exponent⟩ := found
  obtain ⟨k, hk⟩ := toDigits_eq_append n
  have hn : n ≠ 0 := by
    rintro rfl
    exact not_covers_zero hzero (decimalDen_pos exponent) (by simpa [decimalNum] using hcovers)
  have hlength : decimalLength n = (significantDigits n).length + k := by
    rw [decimalLength, if_neg hn, hk, List.length_append, List.length_replicate]
  refine ⟨k, ?_, ?_⟩
  · have hdigits := Nat.ofDigitChars_ten_toDigits (n := n)
    rw [hk, Nat.ofDigitChars_append, Nat.ofDigitChars_replicate_zero, Nat.mul_comm] at hdigits
    exact hdigits.symm
  · simp only [Decimal.last, hlength]
    omega

/-- The **shortest decimal** of a number other than zero is covered by it. -/
theorem covers_shortest (hzero : ¬ x.isZero) :
    x.Covers (decimalNum x.shortest.value x.shortest.last) (decimalDen x.shortest.last) := by
  have hcovers := covers_found hzero
  obtain ⟨k, hvalue, hlast⟩ := exists_last_shortest hzero
  rw [hvalue, covers_shift] at hcovers
  rwa [hlast]

end Binary64

end Listing.Number
