import Listing.Number.Reading
import Listing.Proofs.Number.Shortest
import Mathlib.Data.List.TakeWhile

/-!
# Numbers in Running Text Are Read Back

A finite number in running text has all its places written out. If the number is whole, its
text has no decimal point and is read as an integer; otherwise it is read as the number itself.
The integer of a whole number is the **whole number** that its shortest decimal denotes. It is
exact below `2 ^ 53`, and is rounded to the number wherever it is not.

## Main results

* `Binary64.isSome_toInt?_iff` — a number is whole if its shortest decimal has no fraction.
* `Binary64.ofInt_wholeNumber` — a number is the one nearest to its whole number.
* `Binary64.wholeNumber_eq` — below `2 ^ 53` the whole number is the number itself.
* `Binary64.decimal?_positional`, `Binary64.written?_positional` — the text of a number without
  its sign is read as its whole number, or as the number itself.
-/

namespace Listing.Number

/-! ### Digits are read -/

/-- Digits are read as the number that they denote. -/
theorem digitsFrom_eq {cs : List Char} (h : ∀ c ∈ cs, c.isDigit) (n : Nat) :
    digitsFrom n cs = some (Nat.ofDigitChars 10 cs n) := by
  induction cs generalizing n with
  | nil => rfl
  | cons c cs ih =>
    rw [List.forall_mem_cons] at h
    rw [digitsFrom, if_pos h.1, ih h.2, Nat.ofDigitChars_cons, Nat.mul_comm 10]
    rfl

/-- One or more digits are read as the number that they denote. -/
theorem decimal?_eq {cs : List Char} (hne : cs ≠ []) (h : ∀ c ∈ cs, c.isDigit) :
    decimal? cs = some (Nat.ofDigitChars 10 cs 0) := by
  rw [decimal?, if_neg (by simpa using hne), digitsFrom_eq h]

/-- Digits around a point are read as a decimal with as many places as are behind the point. -/
theorem written?_point {whole fraction : List Char} (hne : whole ≠ [])
    (hwhole : ∀ c ∈ whole, c.isDigit) (hfraction : ∀ c ∈ fraction, c.isDigit) :
    written? (whole ++ '.' :: fraction) =
      some ⟨Nat.ofDigitChars 10 (whole ++ fraction) 0, fraction.length, 0⟩ := by
  have hdigits : ∀ c ∈ whole ++ fraction, c.isDigit :=
    List.forall_mem_append.mpr ⟨hwhole, hfraction⟩
  have htake : (whole ++ '.' :: fraction).takeWhile Char.isDigit = whole := by
    simp [List.takeWhile_append_of_pos hwhole]
  have hdrop : (whole ++ '.' :: fraction).dropWhile Char.isDigit = '.' :: fraction := by
    simp [List.dropWhile_append_of_pos hwhole]
  have htake' : fraction.takeWhile Char.isDigit = fraction :=
    List.takeWhile_eq_self_iff.mpr hfraction
  have hdrop' : fraction.dropWhile Char.isDigit = [] := List.dropWhile_eq_nil_iff.mpr hfraction
  simp only [written?, htake, hdrop, htake', hdrop', exponent?,
    decimal?_eq (List.append_ne_nil_of_left_ne_nil hne _) hdigits]

/-! ### All places written out -/

namespace Decimal

/-- Zeros are digits. -/
theorem isDigit_of_mem_zeros {n : Int} {c : Char} (h : c ∈ zeros n) : c.isDigit := by
  rw [(List.mem_replicate.mp h).2]
  rfl

/-- A decimal without a fraction is its digits and zeros. -/
theorem positional_of_last {d : Decimal} (hne : d.digits ≠ []) (hlast : 0 ≤ d.last) :
    d.positional = d.digits ++ zeros d.last := by
  have hlength := List.length_pos_iff.mpr hne
  rw [last] at hlast
  simp only [positional, last]
  rw [if_neg (by omega), if_pos (by omega)]

/-- A decimal with a fraction is written with a **point**, around which are its digits. -/
theorem exists_positional {d : Decimal} (hd : ∀ c ∈ d.digits, c.isDigit) (hlast : d.last < 0) :
    ∃ whole fraction, d.positional = whole ++ '.' :: fraction ∧ whole ≠ [] ∧
      (∀ c ∈ whole, c.isDigit) ∧ (∀ c ∈ fraction, c.isDigit) ∧
      Nat.ofDigitChars 10 (whole ++ fraction) 0 = d.value ∧ (fraction.length : Int) = -d.last := by
  rw [last] at hlast ⊢
  by_cases hpoint : d.point ≤ 0
  · refine ⟨['0'], zeros (-d.point) ++ d.digits, ?_, by simp, by simp, ?_, ?_, ?_⟩
    · simp [positional, hpoint]
    · exact List.forall_mem_append.mpr ⟨fun _ => isDigit_of_mem_zeros, hd⟩
    · simp [value, zeros, Nat.ofDigitChars_cons, Nat.ofDigitChars_append,
        Nat.ofDigitChars_replicate_zero]
    · simp only [zeros, List.length_append, List.length_replicate]
      omega
  · refine ⟨d.digits.take d.point.toNat, d.digits.drop d.point.toNat, ?_, ?_, ?_, ?_, ?_, ?_⟩
    · simp only [positional]
      rw [if_neg hpoint, if_neg (by omega)]
    · rw [← List.length_pos_iff, List.length_take]
      omega
    · exact fun c hc => hd c (List.mem_of_mem_take hc)
    · exact fun c hc => hd c (List.mem_of_mem_drop hc)
    · rw [List.take_append_drop, value]
    · rw [List.length_drop]
      omega

end Decimal

namespace Binary64

variable {x : Binary64}

/-- The digits of the shortest decimal are digits. -/
theorem isDigit_of_mem_shortest {c : Char} (h : c ∈ x.shortest.digits) : c.isDigit := by
  unfold shortest significantDigits at h
  exact Nat.isDigit_of_mem_toDigits (by decide) (by decide)
    (List.mem_reverse.mp ((List.dropWhile_suffix _).subset (List.mem_reverse.mp h)))

/-- The shortest decimal of a number other than zero is not zero. -/
theorem value_shortest_ne_zero (hzero : ¬ x.isZero) : x.shortest.value ≠ 0 := by
  intro h0
  have hcovers := covers_shortest hzero
  rw [h0, decimalNum, Nat.zero_mul] at hcovers
  exact not_covers_zero hzero (decimalDen_pos _) hcovers

/-- The shortest decimal of a number other than zero has digits. -/
theorem digits_shortest_ne_nil (hzero : ¬ x.isZero) : x.shortest.digits ≠ [] := by
  intro hnil
  exact value_shortest_ne_zero hzero (by rw [Decimal.value, hnil]; rfl)

/-! ### Whole numbers -/

/-- The **whole number** that the shortest decimal of a number denotes. -/
def wholeNumber (x : Binary64) : Int :=
  let n : Int := if x.isZero then 0 else (x.shortest.value * 10 ^ x.shortest.last.toNat : Nat)
  if x.isNegative then -n else n

/-- A whole number is covered by a number below `2 ^ 53` only if it is **exact**. -/
theorem eq_magnitude_of_covers {n : Nat} (h : x.Covers n 1) (hscale : x.scale ≤ 1074) :
    n * unitsInOne = x.magnitude := by
  obtain ⟨u, hu, hunits⟩ := exists_unitsInOne
  obtain ⟨d, hd⟩ := Nat.exists_eq_add_of_le (hu ▸ hscale)
  have hsplit : unitsInOne = 2 ^ d * 2 ^ x.scale := by
    rw [hunits, hd, Nat.pow_add, Nat.mul_comm]
  have hplace : 0 < 2 ^ x.scale := Nat.two_pow_pos _
  have hquarters : 4 * (n * unitsInOne) = 4 * (n * 2 ^ d) * 2 ^ x.scale := by
    rw [hsplit]
    ring
  obtain ⟨hlow, hhigh, -⟩ := h
  rw [hquarters, Nat.mul_one] at hlow hhigh
  have hlow := Nat.le_of_mul_le_mul_right hlow hplace
  have hhigh := Nat.le_of_mul_le_mul_right hhigh hplace
  -- no other integer is within half a unit of the last place
  have hexact : n * 2 ^ d = x.significand := by
    simp only [readBack] at hlow hhigh
    split at hlow <;> omega
  rw [hsplit, ← Nat.mul_assoc, hexact]
  rfl

/-- A whole number is covered by the number that it is exactly. -/
theorem covers_exact {n : Nat} (h : n * unitsInOne = x.magnitude) : x.Covers n 1 := by
  have hplace : 0 < 2 ^ x.scale := Nat.two_pow_pos _
  have hpos := Nat.le_mul_of_pos_left (2 ^ x.scale) (n := x.significand)
  rw [Covers, h, magnitude]
  simp only [readBack, Nat.pow_eq, Nat.mul_one, Nat.sub_mul, Nat.add_mul,
    Nat.mul_assoc 4 x.significand]
  generalize 2 ^ x.scale = place at *
  split <;> omega

/-- A number whose shortest decimal has no fraction is whole. -/
theorem magnitude_mod_of_last (hzero : ¬ x.isZero) (hlast : 0 ≤ x.shortest.last) :
    x.magnitude % unitsInOne = 0 := by
  by_cases hscale : x.scale ≤ 1074
  · have hcovers := covers_shortest hzero
    obtain ⟨k, hk⟩ := Int.eq_ofNat_of_zero_le hlast
    rw [hk, decimalNum_natCast, decimalDen_natCast] at hcovers
    rw [← eq_magnitude_of_covers hcovers hscale]
    exact Nat.mul_mod_left _ _
  · obtain ⟨u, hu, hunits⟩ := exists_unitsInOne
    have hpow : x.scale = x.scale - u + u := by omega
    rw [hunits, magnitude, Nat.pow_eq, hpow, Nat.pow_add, ← Nat.mul_assoc]
    exact Nat.mul_mod_left _ _

/-- On the grid of the integers the search ends with a whole number. -/
theorem digitsFrom_nonneg (hwhole : x.magnitude % unitsInOne = 0) {point : Int} :
    ∀ tries k : Nat, k + tries = 18 → (k : Int) ≤ point →
      0 ≤ (x.digitsFrom point k tries).2 := by
  intro tries
  induction tries with
  | zero =>
    intro k hk hle
    simp only [digitsFrom]
    omega
  | succ tries ih =>
    intro k hk hle
    rw [digitsFrom_succ]
    split
    · simp only
      omega
    next hnear =>
    split
    · simp only
      omega
    rcases Int.lt_or_eq_of_le hle with hlt | heq
    · exact ih (k + 1) (by omega) (by omega)
    · refine absurd ?_ hnear
      have hexact : x.magnitude / unitsInOne * unitsInOne = x.magnitude :=
        Nat.div_mul_cancel (Nat.dvd_of_mod_eq_zero hwhole)
      have hnearer : x.nearer 0 = x.magnitude / unitsInOne := by
        simp [nearer, neighbour_eq, decimalNum, decimalDen, hwhole]
      rw [readsBack_iff, heq, Int.sub_self, hnearer]
      simpa [decimalNum, decimalDen] using covers_exact hexact

/-- A finite number is whole if its magnitude is a multiple of one. -/
theorem isSome_toInt?_iff_mod (hx : x.isFinite) :
    x.toInt?.isSome ↔ x.magnitude % unitsInOne = 0 := by
  unfold toInt?
  generalize unitsInOne = one
  simp [hx]

/-- The integer of a whole number is its magnitude, in ones, with its sign. -/
theorem eq_of_toInt? {n : Int} (h : x.toInt? = some n) :
    x.isFinite ∧ (if x.isNegative then -((x.magnitude / unitsInOne : Nat) : Int)
      else (x.magnitude / unitsInOne : Nat)) = n := by
  unfold toInt? at h
  split at h
  · next hwhole =>
    rw [Bool.and_eq_true] at hwhole
    exact ⟨hwhole.1, Option.some.inj h⟩
  · cases h

/-- The zeros are whole. -/
theorem isSome_toInt?_of_isZero (hx : x.isFinite) (hzero : x.isZero) : x.toInt?.isSome := by
  rw [isSome_toInt?_iff_mod hx, magnitude, isZero_iff.mp hzero, Nat.zero_mul, Nat.zero_mod]

/-- A finite number is **whole** exactly if its shortest decimal has no fraction. -/
theorem isSome_toInt?_iff (hx : x.isFinite) (hzero : ¬ x.isZero) :
    x.toInt?.isSome ↔ 0 ≤ x.shortest.last := by
  rw [isSome_toInt?_iff_mod hx]
  refine ⟨fun hwhole => ?_, magnitude_mod_of_last hzero⟩
  -- a whole number is at least one, so that the search passes the grid of the integers
  have hone : unitsInOne ≤ x.magnitude :=
    Nat.le_of_dvd (magnitude_pos hzero) (Nat.dvd_of_mod_eq_zero hwhole)
  have hpoint : 1 ≤ pointOf x.magnitude unitsInOne := by
    by_contra hneg
    have hhigh := (pointOf_spec (magnitude_pos hzero) unitsInOne_pos).2
    generalize pointOf x.magnitude unitsInOne = point at *
    obtain ⟨j, rfl⟩ : ∃ j : Nat, point = -(j : Int) := ⟨(-point).toNat, by omega⟩
    rw [decimalNum_neg, decimalDen_neg, Nat.one_mul] at hhigh
    have := Nat.le_mul_of_pos_right x.magnitude (Nat.pow_pos (n := j) (show 0 < 10 by decide))
    omega
  obtain ⟨k, -, hlast⟩ := exists_last_shortest hzero
  have hfound : 0 ≤ x.found.2 := digitsFrom_nonneg hwhole 17 1 rfl hpoint
  omega

/-- A whole number other than zero is **rounded** to the number that it is written for. -/
theorem ofInt_wholeNumber (hx : x.isFinite) (hzero : ¬ x.isZero) (hwhole : x.toInt?.isSome) :
    ofInt x.wholeNumber = x := by
  have hcovers := covers_shortest hzero
  obtain ⟨k, hk⟩ := Int.eq_ofNat_of_zero_le ((isSome_toInt?_iff hx hzero).mp hwhole)
  rw [hk, decimalNum_natCast, decimalDen_natCast] at hcovers
  have hpos : x.shortest.value * 10 ^ k ≠ 0 :=
    Nat.mul_ne_zero (value_shortest_ne_zero hzero) (Nat.pow_pos (by decide)).ne'
  have hround := ofRatio_eq_of_covers hx Nat.one_pos hcovers
  simp only [wholeNumber, hk, hzero, Int.toNat_natCast, Bool.false_eq_true, if_false]
  generalize x.shortest.value * 10 ^ k = n at *
  have hsign : decide ((if x.isNegative then -(n : Int) else n) < 0) = x.isNegative := by
    cases x.isNegative with
    | false => simp
    | true => simp; omega
  have habs : (if x.isNegative then -(n : Int) else n).natAbs = n := by
    cases x.isNegative <;> simp
  rw [ofInt, hsign, habs, hround]

/-- A number that is at least one in its last place but one is not below `2 ^ 53`. -/
theorem le_magnitude_div (hscale : 1074 < x.scale) : 2 ^ 53 ≤ x.magnitude / unitsInOne := by
  obtain ⟨u, hu, hunits⟩ := exists_unitsInOne
  obtain ⟨d, hd⟩ := Nat.exists_eq_add_of_lt (hu ▸ hscale)
  have hsignificand := le_significand (Nat.zero_lt_of_lt hscale)
  rw [Nat.le_div_iff_mul_le unitsInOne_pos, hunits, magnitude, Nat.pow_eq, hd]
  calc 2 ^ 53 * 2 ^ u = 2 ^ 52 * 2 ^ (u + 1) := by ring
    _ ≤ x.significand * 2 ^ (u + d + 1) :=
        Nat.mul_le_mul hsignificand (Nat.pow_le_pow_right (by decide) (by omega))

/-- A whole number below `2 ^ 53` is the **integer** that the number is. -/
theorem wholeNumber_eq {n : Int} (h : x.toInt? = some n) (hsmall : n.natAbs < 2 ^ 53) :
    x.wholeNumber = n := by
  have hwhole : x.toInt?.isSome := by rw [h]; rfl
  obtain ⟨hx, hn⟩ := eq_of_toInt? h
  rw [wholeNumber, ← hn]
  by_cases hzero : x.isZero
  · rw [magnitude, isZero_iff.mp hzero, Nat.zero_mul, Nat.zero_div]
    simp [hzero]
  · have hscale : x.scale ≤ 1074 := by
      by_contra hlarge
      have hle := le_magnitude_div (Nat.lt_of_not_le hlarge)
      split at hn <;> omega
    have hcovers := covers_shortest hzero
    obtain ⟨k, hk⟩ := Int.eq_ofNat_of_zero_le ((isSome_toInt?_iff hx hzero).mp hwhole)
    rw [hk, decimalNum_natCast, decimalDen_natCast] at hcovers
    have hexact := eq_magnitude_of_covers hcovers hscale
    rw [← hexact, Nat.mul_div_cancel _ unitsInOne_pos]
    simp only [hzero, Bool.false_eq_true, if_false, hk, Int.toNat_natCast]

/-! ### Reading the text -/

/-- The text of a whole number has nothing but digits. -/
theorem isDigit_of_mem_positional (hzero : ¬ x.isZero) (hlast : 0 ≤ x.shortest.last) :
    ∀ c ∈ x.shortest.positional, c.isDigit := by
  rw [Decimal.positional_of_last (digits_shortest_ne_nil hzero) hlast]
  exact List.forall_mem_append.mpr
    ⟨fun _ => isDigit_of_mem_shortest, fun _ => Decimal.isDigit_of_mem_zeros⟩

/-- The text of a number has a **point** exactly if its shortest decimal has a fraction. -/
theorem point_mem_positional_iff (hzero : ¬ x.isZero) :
    '.' ∈ x.shortest.positional ↔ x.shortest.last < 0 := by
  constructor
  · intro hmem
    by_contra hlast
    exact absurd (isDigit_of_mem_positional hzero (Int.not_lt.mp hlast) _ hmem) (by decide)
  · intro hlast
    obtain ⟨whole, fraction, htext, -⟩ :=
      Decimal.exists_positional (fun _ hc => isDigit_of_mem_shortest hc) hlast
    rw [htext]
    exact List.mem_append_right _ List.mem_cons_self

/-- A whole number is read as the **integer** that its shortest decimal denotes. -/
theorem decimal?_positional (hzero : ¬ x.isZero) (hlast : 0 ≤ x.shortest.last) :
    decimal? x.shortest.positional =
      some (x.shortest.value * 10 ^ x.shortest.last.toNat) := by
  have hne := digits_shortest_ne_nil hzero
  have hdigits := isDigit_of_mem_positional hzero hlast
  rw [Decimal.positional_of_last hne hlast] at hdigits ⊢
  rw [decimal?_eq (List.append_ne_nil_of_left_ne_nil hne _) hdigits, Nat.ofDigitChars_append,
    Decimal.zeros, Nat.ofDigitChars_replicate_zero, Nat.mul_comm, Decimal.value]

/-- A number that is not whole is **read back** from its text. -/
theorem written?_positional (hx : x.isFinite) (hzero : ¬ x.isZero)
    (hlast : x.shortest.last < 0) :
    (written? x.shortest.positional).map (·.nearest x.isNegative) = some x := by
  obtain ⟨whole, fraction, htext, hne, hwhole, hfraction, hvalue, hlength⟩ :=
    Decimal.exists_positional (fun _ hc => isDigit_of_mem_shortest hc) hlast
  have hround := ofDecimal_eq_of_covers hx hzero (covers_shortest hzero)
  rw [htext, written?_point hne hwhole hfraction, hvalue, Option.map_some, Written.nearest]
  simp only [hlength, Int.zero_sub, Int.neg_neg]
  rw [hround]

end Binary64

end Listing.Number
