import Listing.Number.Shortest
import Mathlib.Tactic.Ring

/-!
# Rounding to the Nearest Number

A quotient of natural numbers is **covered** by a floating-point number if it lies in the
interval that is read back as that number: half of the last place to either side, a quarter
below the least significand, the ends only if the significand is even. Rounding takes every
quotient to the number that covers it.

Quotients are compared by cross multiplication, so that all of this is about natural numbers.

## Main results

* `Binary64.covers_congr` — whether a quotient is covered hangs on its value alone.
* `Binary64.ofRatio_eq_of_covers` — a quotient is rounded to the finite number that covers it.
* `Binary64.ofDecimal_eq_of_covers` — so is a decimal with any power of ten.
-/

namespace Listing.Number.Binary64

variable {x : Binary64}

/-! ### The parts of a number -/

/-- The significand has at most 53 bits. -/
theorem significand_lt (x : Binary64) : x.significand < 2 ^ 53 := by
  have hfraction : x.fraction < 2 ^ 52 := Nat.mod_lt _ (by decide)
  unfold significand
  split
  · omega
  · simp only [Nat.pow_eq]
    omega

/-- A number with a scale has a significand of exactly 53 bits. -/
theorem le_significand (h : 0 < x.scale) : 2 ^ 52 ≤ x.significand := by
  have hfield : x.exponentField ≠ 0 := by
    intro h0
    simp [scale, h0] at h
  simp [significand, hfield]

/-- The lower bits of a number are its scale and its significand. -/
theorem scale_add_significand (x : Binary64) :
    x.scale * 2 ^ 52 + x.significand = x.bits.toNat % 2 ^ 63 := by
  unfold scale significand exponentField fraction
  simp only [Nat.pow_eq]
  by_cases h : x.bits.toNat / 2 ^ 52 % 2 ^ 11 = 0
  · rw [if_pos h]
    omega
  · rw [if_neg h]
    omega

/-- A number is made of its sign, its scale and its significand. -/
theorem ofParts_scale_add_significand (x : Binary64) :
    ofParts x.isNegative (x.scale * 2 ^ 52 + x.significand) = x := by
  have hbits := x.bits.toNat_lt
  rw [scale_add_significand, ofParts]
  have hnat : (if x.isNegative then Nat.pow 2 63 else 0) + x.bits.toNat % 2 ^ 63 =
      x.bits.toNat := by
    simp only [isNegative, Nat.pow_eq, decide_eq_true_eq]
    split <;> omega
  rw [hnat, UInt64.ofNat_toNat]

/-- The lower bits of a finite number are below those of infinity. -/
theorem scale_add_significand_lt (h : x.isFinite) :
    x.scale * 2 ^ 52 + x.significand < 2047 * 2 ^ 52 := by
  have hfield : x.exponentField ≠ 2047 := by simpa [isFinite] using h
  rw [scale_add_significand]
  simp only [exponentField, Nat.pow_eq] at hfield
  omega

/-- A number is zero if its significand is. -/
theorem isZero_iff : x.isZero ↔ x.significand = 0 := by
  have hlower := scale_add_significand x
  have hscale := le_significand (x := x)
  simp only [isZero, Nat.pow_eq, decide_eq_true_eq]
  omega

/-! ### Rounding a quotient to an integer -/

/-- A quotient is **rounded** to the integer that is at most a half away, of two such
integers to the even one. -/
theorem roundDiv_eq {num den m : Nat} (hlow : 2 * (m * den) ≤ 2 * num + den)
    (hhigh : 2 * num ≤ 2 * (m * den) + den)
    (hodd : m % 2 = 1 → 2 * (m * den) < 2 * num + den ∧ 2 * num < 2 * (m * den) + den)
    (hden : 0 < den) : roundDiv num den = m := by
  have hdiv : num / den * den + num % den = num := Nat.div_add_mod' num den
  have hmod : num % den < den := Nat.mod_lt _ hden
  have hnear : m = num / den ∨ m = num / den + 1 := by
    rcases Nat.lt_trichotomy m (num / den) with hlt | heq | hgt
    · have hmul := Nat.mul_le_mul_right den (Nat.succ_le_of_lt hlt)
      rw [Nat.succ_mul] at hmul
      omega
    · exact .inl heq
    · refine .inr (Nat.le_antisymm ?_ hgt)
      by_contra hfar
      have hmul := Nat.mul_le_mul_right den (show num / den + 2 ≤ m by omega)
      rw [Nat.add_mul] at hmul
      omega
  unfold roundDiv
  rcases hnear with rfl | rfl
  · by_cases hbelow : 2 * (num % den) < den
    · simp [hbelow]
    · have heven : num / den % 2 = 0 := by omega
      have hhalf : ¬ den < 2 * (num % den) := by omega
      simp [hbelow, hhalf, heven]
  · have hmul : (num / den + 1) * den = num / den * den + den := Nat.succ_mul _ _
    by_cases habove : den < 2 * (num % den)
    · have hbelow : ¬ 2 * (num % den) < den := by omega
      simp [hbelow, habove]
    · have hodd' : num / den % 2 = 1 := by omega
      have hbelow : ¬ 2 * (num % den) < den := by omega
      simp [hbelow, habove, hodd']

/-! ### Covered quotients -/

/-- Whether a quotient is **covered** by a number: it lies between the ends of the interval
that is read back as the number, which belong to it if the significand is even. -/
def Covers (x : Binary64) (num den : Nat) : Prop :=
  x.readBack.1 * (2 ^ x.scale * den) ≤ 4 * (num * unitsInOne) ∧
    4 * (num * unitsInOne) ≤ x.readBack.2 * (2 ^ x.scale * den) ∧
    (x.significand % 2 = 1 → x.readBack.1 * (2 ^ x.scale * den) < 4 * (num * unitsInOne) ∧
      4 * (num * unitsInOne) < x.readBack.2 * (2 ^ x.scale * den))

/-- There are units in one. -/
theorem unitsInOne_pos : 0 < unitsInOne := by
  unfold unitsInOne
  -- the power is not to be computed
  generalize 1074 = n
  exact Nat.two_pow_pos n

/-- Two pairs that are scaled alike are compared alike. -/
theorem compare_scaled {a a' b b' c c' : Nat} (hc : 0 < c) (hc' : 0 < c') (ha : a * c' = a' * c)
    (hb : b * c' = b' * c) : (a ≤ b ↔ a' ≤ b') ∧ (a < b ↔ a' < b') := by
  constructor
  · rw [← Nat.mul_le_mul_right_iff hc', ha, hb, Nat.mul_le_mul_right_iff hc]
  · rw [← Nat.mul_lt_mul_right hc', ha, hb, Nat.mul_lt_mul_right hc]

/-- Whether a quotient is covered hangs on its **value** alone. -/
theorem covers_congr {num den num' den' : Nat} (hden : 0 < den) (hden' : 0 < den')
    (h : num * den' = num' * den) : x.Covers num den ↔ x.Covers num' den' := by
  have hend (a : Nat) : a * (2 ^ x.scale * den) * den' = a * (2 ^ x.scale * den') * den := by ring
  have hvalue : 4 * (num * unitsInOne) * den' = 4 * (num' * unitsInOne) * den := by
    calc 4 * (num * unitsInOne) * den' = 4 * unitsInOne * (num * den') := by ring
      _ = 4 * unitsInOne * (num' * den) := by rw [h]
      _ = 4 * (num' * unitsInOne) * den := by ring
  have hlow := compare_scaled hden hden' (hend x.readBack.1) hvalue
  have hhigh := compare_scaled hden hden' hvalue (hend x.readBack.2)
  rw [Covers, Covers, hlow.1, hlow.2, hhigh.1, hhigh.2]

/-- The **scale** of so many units: the significand gets at most 53 bits, and exactly as many
if there is a scale. -/
theorem scale_eq {units t : Nat} (hhigh : units < 2 ^ 53 * 2 ^ t)
    (hlow : t = 0 ∨ 2 ^ 52 * 2 ^ t ≤ units) :
    (if units < Nat.pow 2 53 then 0 else units.log2 - 52) = t := by
  cases t with
  | zero => exact if_pos (by simpa using hhigh)
  | succ t =>
    have hlow' : 2 ^ (53 + t) ≤ units := by
      rw [show 53 + t = 52 + (t + 1) by omega, Nat.pow_add]
      exact hlow.resolve_left (Nat.succ_ne_zero t)
    have hhigh' : units < 2 ^ (53 + t + 1) := by rwa [Nat.add_assoc, Nat.pow_add]
    have hlog : units.log2 = 53 + t :=
      (Nat.log2_eq_iff (Nat.ne_of_gt (Nat.lt_of_lt_of_le (Nat.two_pow_pos _) hlow'))).mpr
        ⟨hlow', hhigh'⟩
    have hlarge : ¬ units < Nat.pow 2 53 :=
      Nat.not_lt.mpr ((Nat.pow_le_pow_right (by decide) (by omega)).trans hlow')
    rw [if_neg hlarge, hlog]
    omega

/-- A rounded quotient has the bits of its scale and of its rounded significand. -/
theorem ofRatio_eq {num den t q : Nat} (hx : x.isFinite) (hden : 0 < den)
    (hhigh : num * unitsInOne < 2 ^ 53 * (2 ^ t * den))
    (hlow : t = 0 ∨ 2 ^ 52 * (2 ^ t * den) ≤ num * unitsInOne)
    (hround : roundDiv (num * unitsInOne) (2 ^ t * den) = q)
    (hsum : t * 2 ^ 52 + q = x.scale * 2 ^ 52 + x.significand) :
    ofRatio x.isNegative num den = x := by
  have hunits : num * unitsInOne / den < 2 ^ 53 * 2 ^ t := by
    rwa [Nat.div_lt_iff_lt_mul hden, Nat.mul_assoc]
  have hscale := scale_eq hunits
    (hlow.imp id fun h => by rwa [Nat.le_div_iff_mul_le hden, Nat.mul_assoc])
  have hrest := scale_add_significand_lt hx
  rw [← hsum] at hrest
  simp only [ofRatio, hscale, Nat.pow_eq, Nat.mul_comm den, hround, if_pos hrest]
  rw [hsum, ofParts_scale_add_significand]

/-- A quotient is **rounded** to the finite number that covers it. -/
theorem ofRatio_eq_of_covers {num den : Nat} (hx : x.isFinite) (hden : 0 < den)
    (h : x.Covers num den) : ofRatio x.isNegative num den = x := by
  have hm := significand_lt x
  have hnormal := le_significand (x := x)
  have hplace : 0 < 2 ^ x.scale * den := Nat.mul_pos (Nat.two_pow_pos _) hden
  obtain ⟨hlow, hhigh, hodd⟩ := h
  simp only [readBack, Nat.pow_eq, Nat.sub_mul, Nat.add_mul, Nat.mul_assoc 4 x.significand]
    at hlow hhigh hodd
  by_cases hbinade : x.scale = 0 ∨ 2 ^ 52 * (2 ^ x.scale * den) ≤ num * unitsInOne
  · -- the quotient has the scale of `x`
    have hupper := Nat.mul_le_mul_right (2 ^ x.scale * den) (Nat.le_sub_one_of_lt hm)
    have hbelow : (if x.significand = 2 ^ 52 ∧ 0 < x.scale then 1 else 2) * (2 ^ x.scale * den) ≤
        2 * (2 ^ x.scale * den) := Nat.mul_le_mul_right _ (by split <;> omega)
    refine ofRatio_eq hx hden ?_ hbinade (roundDiv_eq ?_ ?_ ?_ hplace) rfl
    all_goals
      generalize 2 ^ x.scale * den = place at *
      generalize (if x.significand = 2 ^ 52 ∧ 0 < x.scale then 1 else 2) * place = below at *
      omega
  · -- the quotient is below the least significand of the scale and rounded up to it
    obtain ⟨hpos, hless⟩ := not_or.mp hbinade
    obtain ⟨t, ht⟩ := Nat.exists_eq_succ_of_ne_zero hpos
    have heq : x.significand = 2 ^ 52 := by
      by_contra hne
      have habove := Nat.mul_le_mul_right (2 ^ x.scale * den)
        (show 2 ^ 52 + 1 ≤ x.significand by have := hnormal (Nat.pos_of_ne_zero hpos); omega)
      rw [if_neg fun h => hne h.1] at hlow
      omega
    have hhalf : 2 ^ x.scale * den = 2 * (2 ^ t * den) := by
      rw [ht, Nat.pow_succ]
      ring
    rw [heq, hhalf, if_pos ⟨rfl, by omega⟩] at hlow
    rw [hhalf] at hless
    refine ofRatio_eq (t := t) (q := 2 ^ 53) hx hden ?_ (.inr ?_) (roundDiv_eq ?_ ?_ ?_ ?_) ?_
    all_goals
      generalize 2 ^ t * den = place at *
      omega

/-! ### Decimals -/

/-- The numerator of `n * 10 ^ exponent`. -/
def decimalNum (n : Nat) (exponent : Int) : Nat := n * 10 ^ exponent.toNat

/-- The denominator of `n * 10 ^ exponent`. -/
def decimalDen (exponent : Int) : Nat := 10 ^ (-exponent).toNat

@[simp] theorem decimalNum_natCast (n k : Nat) : decimalNum n (k : Int) = n * 10 ^ k := rfl

@[simp] theorem decimalNum_neg (n k : Nat) : decimalNum n (-(k : Int)) = n := by
  simp [decimalNum]

@[simp] theorem decimalDen_natCast (k : Nat) : decimalDen (k : Int) = 1 := by
  simp [decimalDen]

@[simp] theorem decimalDen_neg (k : Nat) : decimalDen (-(k : Int)) = 10 ^ k := by
  simp [decimalDen]

/-- The denominator of a decimal is positive. -/
theorem decimalDen_pos (exponent : Int) : 0 < decimalDen exponent := Nat.pow_pos (by decide)

/-- Whether a decimal is **read back** as a number is whether it is covered. -/
theorem readsBack_iff {n : Nat} {exponent : Int} :
    x.readsBack n exponent ↔ x.Covers (decimalNum n exponent) (decimalDen exponent) := by
  have hends (place value : Nat) : (if x.significand % 2 = 0 then
        decide (x.readBack.1 * place ≤ value) && decide (value ≤ x.readBack.2 * place)
      else decide (x.readBack.1 * place < value) && decide (value < x.readBack.2 * place)) ↔
      x.readBack.1 * place ≤ value ∧ value ≤ x.readBack.2 * place ∧
        (x.significand % 2 = 1 → x.readBack.1 * place < value ∧ value < x.readBack.2 * place) := by
    rcases Nat.mod_two_eq_zero_or_one x.significand with heven | hodd
    · simp [heven]
    · simp only [hodd, Nat.one_ne_zero, if_false, Bool.and_eq_true, decide_eq_true_eq, true_imp_iff]
      exact ⟨fun h => ⟨h.1.le, h.2.le, h⟩, fun h => h.2.2⟩
  unfold Covers decimalNum decimalDen
  rw [← hends]
  by_cases hexp : 0 ≤ exponent
  · have hneg : (-exponent).toNat = 0 := by omega
    simp only [readsBack, hexp, if_true, hneg, Nat.pow_zero, Nat.mul_one, Nat.pow_eq, Nat.mul_assoc]
  · have hpos : exponent.toNat = 0 := by omega
    simp only [readsBack, hexp, if_false, hpos, Nat.pow_zero, Nat.mul_one, Nat.pow_eq,
      Nat.mul_assoc]

/-- Zeros behind a decimal go with a lower power of ten. -/
theorem decimalNum_shift (n k : Nat) (exponent : Int) :
    decimalNum (n * 10 ^ k) exponent * decimalDen (exponent + k) =
      decimalNum n (exponent + k) * decimalDen exponent := by
  have hsum : k + exponent.toNat + (-(exponent + k)).toNat =
      (exponent + k).toNat + (-exponent).toNat := by omega
  simp only [decimalNum, decimalDen, Nat.mul_assoc, ← Nat.pow_add]
  rw [hsum]

/-- Zeros behind a decimal do not change whether it is covered. -/
theorem covers_shift {n k : Nat} {exponent : Int} :
    x.Covers (decimalNum (n * 10 ^ k) exponent) (decimalDen exponent) ↔
      x.Covers (decimalNum n (exponent + k)) (decimalDen (exponent + k)) :=
  covers_congr (decimalDen_pos _) (decimalDen_pos _) (decimalNum_shift n k exponent)

/-- The lower end of the interval of a number other than zero is positive. -/
theorem two_le_readBack (hzero : ¬ x.isZero) : 2 ≤ x.readBack.1 := by
  rw [isZero_iff] at hzero
  simp only [readBack]
  split <;> omega

/-- A power of ten is no less than three times as high a power of two. -/
theorem two_pow_le_ten_pow (k : Nat) : 2 ^ (3 * k) ≤ 10 ^ k := by
  rw [Nat.pow_mul]
  exact Nat.pow_le_pow_left (by decide) k

/-- Zero is covered by no other number. -/
theorem not_covers_zero (hzero : ¬ x.isZero) {den : Nat} (hden : 0 < den) : ¬ x.Covers 0 den := by
  rintro ⟨hlow, -, -⟩
  have hpos : 0 < x.readBack.1 * (2 ^ x.scale * den) :=
    Nat.mul_pos (by have := two_le_readBack hzero; omega) (Nat.mul_pos (Nat.two_pow_pos _) hden)
  omega

/-- One is a power of two of units. -/
theorem exists_unitsInOne : ∃ u, u = 1074 ∧ unitsInOne = 2 ^ u := by
  refine ⟨_, rfl, ?_⟩
  unfold unitsInOne
  generalize 1074 = u
  rfl

/-- A decimal that is covered has no very high power of ten. -/
theorem exponent_le_of_covers {n : Nat} {exponent : Int} (hx : x.isFinite) (hn : n ≠ 0)
    (h : x.Covers (decimalNum n exponent) (decimalDen exponent)) : ¬ 400 < exponent := by
  intro hlarge
  obtain ⟨u, hu, hunits⟩ := exists_unitsInOne
  have hscale := scale_add_significand_lt hx
  have hden : (-exponent).toNat = 0 := by omega
  have hhigh := h.2.1
  rw [decimalNum, decimalDen, hden, hunits, Nat.pow_zero, Nat.mul_one] at hhigh
  have hupper : x.readBack.2 * 2 ^ x.scale ≤ 2 ^ (55 + x.scale) := by
    rw [Nat.pow_add]
    refine Nat.mul_le_mul_right _ ?_
    have := significand_lt x
    simp only [readBack]
    omega
  have hlower : 2 ^ (2 + 3 * exponent.toNat + u) ≤ 4 * (n * 10 ^ exponent.toNat * 2 ^ u) := by
    rw [Nat.pow_add, Nat.pow_add, Nat.mul_assoc]
    refine Nat.mul_le_mul_left 4 (Nat.mul_le_mul_right _ ?_)
    exact (two_pow_le_ten_pow _).trans (Nat.le_mul_of_pos_left _ (Nat.pos_of_ne_zero hn))
  have hpow := (Nat.pow_le_pow_iff_right (by decide)).mp (hlower.trans (hhigh.trans hupper))
  omega

/-- A decimal that is covered has no very low power of ten. -/
theorem le_exponent_of_covers {n : Nat} {exponent : Int} (hzero : ¬ x.isZero)
    (hneg : exponent < 0) (h : x.Covers (decimalNum n exponent) (decimalDen exponent)) :
    ¬ (n.log2 : Int) + 1 + 3 * exponent < -1080 := by
  intro hsmall
  obtain ⟨u, hu, hunits⟩ := exists_unitsInOne
  have hnum : exponent.toNat = 0 := by omega
  have hlow := h.1
  rw [decimalNum, decimalDen, hnum, hunits, Nat.pow_zero, Nat.mul_one] at hlow
  have hlower : 2 ^ (1 + 3 * (-exponent).toNat) ≤
      x.readBack.1 * (2 ^ x.scale * 10 ^ (-exponent).toNat) := by
    rw [Nat.pow_add]
    refine Nat.mul_le_mul (two_le_readBack hzero) ?_
    exact (two_pow_le_ten_pow _).trans (Nat.le_mul_of_pos_left _ (Nat.two_pow_pos _))
  have hupper : 4 * (n * 2 ^ u) < 2 ^ (2 + (n.log2 + 1) + u) := by
    rw [Nat.pow_add, Nat.pow_add, Nat.mul_assoc]
    exact Nat.mul_lt_mul_of_pos_left
      (Nat.mul_lt_mul_of_pos_right Nat.lt_log2_self (Nat.two_pow_pos _)) (by decide)
  have hpow := (Nat.pow_lt_pow_iff_right (by decide)).mp
    (Nat.lt_of_le_of_lt (hlower.trans hlow) hupper)
  omega

/-- A **decimal** is rounded to the finite number that covers it, other than zero. -/
theorem ofDecimal_eq_of_covers {n : Nat} {exponent : Int} (hx : x.isFinite) (hzero : ¬ x.isZero)
    (h : x.Covers (decimalNum n exponent) (decimalDen exponent)) :
    ofDecimal x.isNegative n exponent = x := by
  have hround := ofRatio_eq_of_covers hx (decimalDen_pos exponent) h
  have hn : n ≠ 0 := by
    rintro rfl
    exact not_covers_zero hzero (decimalDen_pos exponent) (by simpa [decimalNum] using h)
  unfold ofDecimal
  rw [if_neg hn, if_neg (exponent_le_of_covers hx hn h)]
  by_cases hnonneg : 0 ≤ exponent
  · have hden : (-exponent).toNat = 0 := by omega
    rw [if_pos hnonneg]
    simpa [decimalNum, decimalDen, hden] using hround
  · have hnum : exponent.toNat = 0 := by omega
    rw [if_neg hnonneg, if_neg (le_exponent_of_covers hzero (by omega) h)]
    simpa [decimalNum, decimalDen, hnum] using hround

end Listing.Number.Binary64
