import Listing.Calendar.Date
import Mathlib.Algebra.Ring.Nat

/-!
# Days Have Dates

The number of a day and its date stand for each other. A day is in the year whose days its number
is among, and in the month and at the place that are left when the months before are taken away.
No table of years is needed: the year is guessed from the average length of a year, and the guess is
off by at most one.

## Main results

* `daysBeforeYear_succ` — a year has as many days as its months have together.
* `yearOf_spec` — the year of a day is the one that its number is in.
* `monthAndDay_spec` — the month and the place in it are found.
* `Date.number_ofNumber` — the number of the date of a day is that of the day.
* `Date.isValid_ofNumber` — the date exists if its year is in range.
-/

namespace Listing.Calendar

/-! ### Years -/

/-- The months of a year have 365 days, and a day more in a leap year. -/
theorem sum_monthLengths (year : Int) :
    (monthLengths year).sum = if isLeapYear year then 366 else 365 := by
  unfold monthLengths
  split <;> rfl

/-- No month has more than 31 days. -/
theorem le_of_mem_monthLengths {year : Int} {length : Nat} (h : length ∈ monthLengths year) :
    length ≤ 31 := by
  unfold monthLengths at h
  split at h <;> revert length <;> decide

/-- A year begins when the months of the one before are **over**. -/
theorem daysBeforeYear_succ (year : Int) :
    daysBeforeYear (year + 1) = daysBeforeYear year + (monthLengths year).sum := by
  have hleap : isLeapYear year = true ↔ year % 4 = 0 ∧ (year % 100 ≠ 0 ∨ year % 400 = 0) := by
    simp [isLeapYear]
  rw [sum_monthLengths]
  simp only [daysBeforeYear]
  split
  next h =>
    rw [hleap] at h
    omega
  next h =>
    rw [hleap] at h
    omega

/-- The **year** of a day is the one that its number is in. -/
theorem Date.yearOf_spec (number : Int) :
    daysBeforeYear (yearOf number) ≤ number ∧ number < daysBeforeYear (yearOf number + 1) := by
  -- the guess is off by at most one
  have hguess : daysBeforeYear (number * 400 / 146097 + 1 - 1) ≤ number ∧
      number < daysBeforeYear (number * 400 / 146097 + 1 + 1 + 1) := by
    simp only [daysBeforeYear]
    omega
  rw [yearOf]
  split
  next hlow => exact ⟨hguess.1, by rwa [Int.sub_add_cancel]⟩
  next hlow =>
    split
    next hhigh => exact ⟨Int.not_lt.mp hlow, hhigh⟩
    next hhigh => exact ⟨Int.not_lt.mp hhigh, hguess.2⟩

namespace Date

/-! ### Months -/

/-- The **month** and the place in it: as many days are left of it as of the months before it and
the days before it together. -/
theorem monthAndDay_spec {lengths : List Nat} {rest : Nat} (h : rest < lengths.sum)
    (month : Nat) : ∃ past length day, lengths[past]? = some length ∧ day < length ∧
      monthAndDay month rest lengths = (month + past, day + 1) ∧
      (lengths.take past).sum + day = rest := by
  induction lengths generalizing month rest with
  | nil => exact absurd h (Nat.not_lt_zero _)
  | cons first lengths ih =>
    rw [monthAndDay]
    by_cases hrest : rest < first
    · exact ⟨0, first, rest, rfl, hrest, if_pos hrest, Nat.zero_add rest⟩
    · rw [List.sum_cons] at h
      have hless : rest - first < lengths.sum := by omega
      obtain ⟨past, length, day, hlength, hday, hfound, hsum⟩ := ih hless (month + 1)
      refine ⟨past + 1, length, day, hlength, hday, ?_, ?_⟩
      · rw [if_neg hrest, hfound, Nat.add_assoc, Nat.add_comm 1]
      · rw [List.take_succ_cons, List.sum_cons]
        omega

/-- The date of a day, in parts. -/
theorem exists_ofNumber (number : Int) : ∃ past length day,
    ofNumber number = ⟨yearOf number, past + 1, day + 1⟩ ∧
      (monthLengths (yearOf number))[past]? = some length ∧ day < length ∧
      daysBeforeYear (yearOf number) +
        (((monthLengths (yearOf number)).take past).sum + day : Nat) = number := by
  obtain ⟨hfirst, hlast⟩ := yearOf_spec number
  rw [daysBeforeYear_succ] at hlast
  have hrest : (number - daysBeforeYear (yearOf number)).toNat <
      (monthLengths (yearOf number)).sum := by omega
  obtain ⟨past, length, day, hlength, hday, hfound, hsum⟩ := monthAndDay_spec hrest 1
  refine ⟨past, length, day, ?_, hlength, hday, by omega⟩
  rw [ofNumber, hfound, Nat.add_comm 1]

/-! ### Dates -/

/-- The **number** of the date of a day is that of the day. -/
theorem number_ofNumber (n : Int) : (ofNumber n).number = n := by
  obtain ⟨past, length, day, hdate, -, -, hnumber⟩ := exists_ofNumber n
  rw [hdate]
  simp only [number, daysBeforeMonth, Nat.add_sub_cancel, ← List.sum_eq_foldl]
  omega

/-- The date of a day **exists** if its year is in range. -/
theorem isValid_ofNumber {n : Int} (hfirst : firstYear ≤ (ofNumber n).year)
    (hlast : (ofNumber n).year ≤ lastYear) : (ofNumber n).isValid := by
  obtain ⟨past, length, day, hdate, hlength, hday, -⟩ := exists_ofNumber n
  rw [hdate] at hfirst hlast ⊢
  simp [isValid, hfirst, hlast, hlength]
  omega

/-- The month and the place in it have at most two digits. -/
theorem ofNumber_lt (n : Int) : (ofNumber n).month < 100 ∧ (ofNumber n).day < 100 := by
  obtain ⟨past, length, day, hdate, hlength, hday, -⟩ := exists_ofNumber n
  have hpast : past < 12 := (List.getElem?_eq_some_iff.mp hlength).1
  have hle := le_of_mem_monthLengths (List.mem_of_getElem? hlength)
  rw [hdate]
  constructor <;> dsimp only <;> omega

end Date

end Listing.Calendar
