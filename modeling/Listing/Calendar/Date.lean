/-!
# Dates

Days of the Gregorian calendar, extended to all years before and after its use; the year 0 is the
year before the year 1. `Date.number` counts the days from the first day of the year 1, and
`Date.ofNumber` finds the date of a day.
-/

namespace Listing.Calendar

/-- A day as its year, its month from 1 to 12 and its day of the month, from 1. -/
structure Date where
  /-- The year, which may be 0 or negative. -/
  year : Int
  /-- The month, from 1. -/
  month : Nat
  /-- The day of the month, from 1. -/
  day : Nat
deriving DecidableEq, Repr

/-- Whether the year has 366 days. -/
def isLeapYear (year : Int) : Bool := year % 4 = 0 && (year % 100 ≠ 0 || year % 400 = 0)

/-- The days of each month. -/
def monthLengths (year : Int) : List Nat :=
  [31, if isLeapYear year then 29 else 28, 31, 30, 31, 30, 31, 31, 30, 31, 30, 31]

/-- The number of days from the first day of the year 1 to the first day of a year. -/
def daysBeforeYear (year : Int) : Int :=
  let past := year - 1
  365 * past + past / 4 - past / 100 + past / 400

/-- The first year of the range of years. -/
def firstYear : Int := -262143

/-- The last year of the range of years. -/
def lastYear : Int := 262142

namespace Date

/-- Whether the month has the day and the year is in range. -/
def isValid (d : Date) : Bool :=
  firstYear ≤ d.year && d.year ≤ lastYear && 1 ≤ d.month && 1 ≤ d.day &&
    d.day ≤ ((monthLengths d.year)[d.month - 1]?).getD 0

/-- The number of days of a year before a month. -/
def daysBeforeMonth (year : Int) (month : Nat) : Nat :=
  ((monthLengths year).take (month - 1)).foldl (· + ·) 0

/-- The number of days from the first day of the year 1. -/
def number (d : Date) : Int :=
  daysBeforeYear d.year + daysBeforeMonth d.year d.month + (d.day - 1 : Int)

/-- The month and day of month of the day that comes `rest` days after the first of `month`, where
`lengths` are the lengths of that month and of those after it. -/
def monthAndDay (month rest : Nat) : List Nat → Nat × Nat
  | [] => (month, rest + 1)
  | length :: lengths =>
    if rest < length then (month, rest + 1) else monthAndDay (month + 1) (rest - length) lengths

/-- The year of the day with the given number. The average year has 146097 days in 400 years, so
the first guess is off by at most one. -/
def yearOf (number : Int) : Int :=
  let guess := number * 400 / 146097 + 1
  if number < daysBeforeYear guess then guess - 1
  else if number < daysBeforeYear (guess + 1) then guess
  else guess + 1

/-- The date of the day with the given number. -/
def ofNumber (number : Int) : Date :=
  let year := yearOf number
  let (month, day) := monthAndDay 1 (number - daysBeforeYear year).toNat (monthLengths year)
  ⟨year, month, day⟩

/-- A year as it is written: four digits, and a sign if it needs more or is negative. -/
def yearText (year : Int) : String :=
  let digits := (toString year.natAbs).toList
  let padded := String.ofList (List.replicate (4 - digits.length) '0' ++ digits)
  if year < 0 then "-" ++ padded else if 9999 < year then "+" ++ padded else padded

end Date

/-- A number with at least `width` digits. -/
def padded (width n : Nat) : String :=
  let digits := Nat.toDigits 10 n
  String.ofList (List.replicate (width - digits.length) '0' ++ digits)

/-- A date as it is written, year first. -/
def Date.text (d : Date) : String :=
  Date.yearText d.year ++ "-" ++ padded 2 d.month ++ "-" ++ padded 2 d.day

end Listing.Calendar
