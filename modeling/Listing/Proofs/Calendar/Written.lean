import Listing.Calendar.Reading
import Listing.Proofs.Calendar.Days
import Listing.Proofs.Text.Splitting

/-!
# Dates and Times Are Read as They Are Written

Every number in a written date or time has a fixed number of digits, so the readers find it without
knowing what comes behind it; only a year with a sign and a fraction of a second end where the
digits end. The lenient reader takes a date of any year, for it reads a sign; the strict one reads
exactly four digits.

## Main results

* `number?_padded` — a number is read back from its digits.
* `fraction?_fractionText` — a fraction of a second is read back, whatever its places.
* `date?_text` — a date of any year is read back leniently.
* `Instant.withoutOffset?_localText` — so is the local text of an instant, if nothing is behind it.
* `Instant.withOffset?_text` — the whole text is read back strictly if the year has four digits.
* `Instant.withOffset?_eq_none`, `Instant.ofDay?_eq_none` — otherwise, or as a date, it is not read.
-/

namespace Listing.Calendar

open Text (not_isBlank_of_isDigit)

variable {least width most n : Nat} {ds rest : List Char}

/-! ### Numbers -/

/-- Digits denote what they stand for. -/
theorem digitsValue_eq (ds : List Char) : digitsValue ds = Nat.ofDigitChars 10 ds 0 := by
  rw [Nat.ofDigitChars_eq_foldl, digitsValue]
  simp only [Nat.mul_comm 10]
  rfl

/-- A text in front of which digits **end**: it starts with none. -/
def EndsDigits (rest : List Char) : Prop := ∀ c ∈ rest.head?, c.isDigit = false

/-- Digits end in front of every character that is none. -/
theorem endsDigits_cons {c : Char} (h : c.isDigit = false) (rest : List Char) :
    EndsDigits (c :: rest) := by
  rintro _ ⟨rfl⟩
  exact h

/-- Digits are read up to the largest number of them, or to where they end. -/
theorem number?_append (hds : ∀ c ∈ ds, c.isDigit) (hleast : least ≤ ds.length)
    (hmost : ds.length ≤ most) (hrest : ds.length = most ∨ EndsDigits rest) :
    number? least most (ds ++ rest) = some (digitsValue ds, rest) := by
  have hbehind : (rest.take (most - ds.length)).takeWhile Char.isDigit = [] := by
    rcases hrest with hlength | hends
    · simp [hlength]
    · cases rest with
      | nil => simp
      | cons c rest =>
        cases most - ds.length with
        | zero => rfl
        | succ k => simp [hends c rfl]
  have hdigits : ((ds ++ rest).take most).takeWhile Char.isDigit = ds := by
    rw [List.take_append, List.take_of_length_le hmost, List.takeWhile_append_of_pos hds, hbehind,
      List.append_nil]
  rw [number?, hdigits, if_neg (Nat.not_lt.mpr hleast), List.drop_left]

/-- A number is written in digits. -/
theorem isDigit_of_mem_padded {c : Char} (h : c ∈ (padded width n).toList) : c.isDigit := by
  rw [padded, String.toList_ofList, List.mem_append] at h
  rcases h with h | h
  · rw [(List.mem_replicate.mp h).2]
    rfl
  · exact Nat.isDigit_of_mem_toDigits (by decide) (by decide) h

/-- The digits of a number denote it. -/
theorem digitsValue_padded (width n : Nat) : digitsValue (padded width n).toList = n := by
  rw [digitsValue_eq, padded, String.toList_ofList, Nat.ofDigitChars_append,
    Nat.ofDigitChars_replicate_zero, Nat.mul_zero,
    Nat.ofDigitChars_toDigits (by decide) (by decide)]

/-- A number has at least as many digits as are asked for. -/
theorem le_length_padded (width n : Nat) : width ≤ (padded width n).toList.length := by
  rw [padded, String.toList_ofList, List.length_append, List.length_replicate]
  omega

/-- A number below a power of ten has no more. -/
theorem length_padded (hwidth : 0 < width) (h : n < 10 ^ width) :
    (padded width n).toList.length = width := by
  have hdigits := (Nat.length_toDigits_le_iff (by decide) hwidth).mpr h
  rw [padded, String.toList_ofList, List.length_append, List.length_replicate]
  omega

/-- A number is read back from its digits, up to the largest number of them or to where they
end. -/
theorem number?_padded_append (hleast : least ≤ width)
    (hmost : (padded width n).toList.length ≤ most)
    (hrest : (padded width n).toList.length = most ∨ EndsDigits rest) :
    number? least most ((padded width n).toList ++ rest) = some (n, rest) := by
  have hlength := hleast.trans (le_length_padded width n)
  rw [number?_append (fun c hc => isDigit_of_mem_padded hc) hlength hmost hrest,
    digitsValue_padded]

/-- A number of known width is **read back** from its digits, whatever is behind them. -/
theorem number?_padded (hwidth : 0 < width) (hleast : least ≤ width) (h : n < 10 ^ width)
    (rest : List Char) :
    number? least width ((padded width n).toList ++ rest) = some (n, rest) := by
  have hlength := length_padded hwidth h
  exact number?_padded_append hleast hlength.le (.inl hlength)

/-- A text that starts with a number starts with a digit. -/
theorem exists_padded_append (hwidth : 0 < width) (n : Nat) (rest : List Char) :
    ∃ c cs, (padded width n).toList ++ rest = c :: cs ∧ c.isDigit := by
  obtain ⟨c, cs, hcs⟩ := List.exists_cons_of_length_pos
    (hwidth.trans_le (le_length_padded width n))
  refine ⟨c, cs ++ rest, by rw [hcs, List.cons_append], ?_⟩
  exact isDigit_of_mem_padded (hcs ▸ List.mem_cons_self)

/-- Digits are not trimmed. -/
theorem trimStart_padded (hwidth : 0 < width) (n : Nat) (rest : List Char) :
    Text.trimStart ((padded width n).toList ++ rest) = (padded width n).toList ++ rest := by
  obtain ⟨c, cs, hcs, hdigit⟩ := exists_padded_append hwidth n rest
  rw [hcs, Text.trimStart, List.dropWhile_cons_of_neg (not_isBlank_of_isDigit hdigit)]

/-- A part of a date or a time is read back. -/
theorem part?_padded (h : n < 100) (rest : List Char) :
    part? ((padded 2 n).toList ++ rest) = some (n, rest) := by
  rw [part?, trimStart_padded (by decide), number?_padded (by decide) (by decide) h]

/-! ### Fractions of a second -/

/-- The places of a fraction are read back. -/
theorem nano?_padded (hwidth : 0 < width) (hplaces : width ≤ 9) (h : n < 10 ^ width)
    (hrest : EndsDigits rest) :
    nano? ((padded width n).toList ++ rest) = some (n * 10 ^ (9 - width), rest) := by
  have hlength := length_padded hwidth h
  have hnumber : number? 1 9 ((padded width n).toList ++ rest) = some (n, rest) :=
    number?_padded_append hwidth (hlength.trans_le hplaces) (.inr hrest)
  have hdrop : rest.dropWhile Char.isDigit = rest := by
    cases rest with
    | nil => rfl
    | cons c rest => exact List.dropWhile_cons_of_neg (by simp [hrest c rfl])
  simp [nano?, hnumber, hdrop, hlength]

/-- A **fraction** of a second is read back. -/
theorem fraction?_fractionText (h : n < secondNanos) (hends : EndsDigits rest)
    (hpoint : rest.head? ≠ some '.') :
    fraction? ((Clock.fractionText n).toList ++ rest) = some (n, rest) := by
  have hwritten : ∀ {width m : Nat}, 0 < width → width ≤ 9 → m < 10 ^ width →
      m * 10 ^ (9 - width) = n →
        fraction? (("." ++ padded width m).toList ++ rest) = some (n, rest) := by
    intro width m hwidth hplaces hm hvalue
    rw [String.toList_append, ← hvalue]
    exact nano?_padded hwidth hplaces hm hends
  rw [secondNanos] at h
  rw [Clock.fractionText]
  split
  next hzero =>
    subst hzero
    rw [String.toList_empty, List.nil_append]
    unfold fraction?
    split
    next => exact absurd rfl hpoint
    next => rfl
  split
  · exact hwritten (by decide) (by decide) (by omega) (by omega)
  split
  · exact hwritten (by decide) (by decide) (by omega) (by omega)
  · exact hwritten (by decide) (by decide) (by omega) (by omega)

/-! ### Dates -/

/-- The **sign** of a year: years of four digits need none. -/
def yearSign (year : Int) : List Char :=
  if year < 0 then ['-'] else if 9999 < year then ['+'] else []

/-- A year is written as its sign and its digits. -/
theorem toList_yearText (year : Int) :
    (Date.yearText year).toList = yearSign year ++ (padded 4 year.natAbs).toList := by
  have hdigits : (toString year.natAbs).toList = Nat.toDigits 10 year.natAbs := by simp
  rw [Date.yearText, yearSign, padded, hdigits]
  split
  · rw [String.toList_append]
    rfl
  split
  · rw [String.toList_append]
    rfl
  · rfl

/-- Behind a sign, a year may have any number of digits. -/
theorem year?_minus (cs : List Char) :
    year? ('-' :: cs) = (number? 1 cs.length cs).map fun (n, tail) => (-(n : Int), tail) := rfl

/-- So it may behind the other sign. -/
theorem year?_plus (cs : List Char) :
    year? ('+' :: cs) = (number? 1 cs.length cs).map fun (n, tail) => ((n : Int), tail) := rfl

/-- A **year** is read back leniently. -/
theorem year?_yearText (year : Int) (hends : EndsDigits rest) :
    year? ((Date.yearText year).toList ++ rest) = some (year, rest) := by
  have hread : ∀ {most : Nat}, (padded 4 year.natAbs).toList.length ≤ most →
      number? 1 most ((padded 4 year.natAbs).toList ++ rest) = some (year.natAbs, rest) :=
    fun hmost => number?_padded_append (by decide) hmost (.inr hends)
  have hall : (padded 4 year.natAbs).toList.length ≤
      ((padded 4 year.natAbs).toList ++ rest).length := by simp
  rw [toList_yearText]
  by_cases hnegative : year < 0
  · rw [yearSign, if_pos hnegative, List.singleton_append, List.cons_append, year?_minus,
      hread hall]
    have hvalue : -(year.natAbs : Int) = year := by omega
    exact congrArg (fun y => some (y, rest)) hvalue
  have hvalue : (year.natAbs : Int) = year := by omega
  by_cases hlong : 9999 < year
  · rw [yearSign, if_neg hnegative, if_pos hlong, List.singleton_append, List.cons_append,
      year?_plus, hread hall]
    exact congrArg (fun y => some (y, rest)) hvalue
  · have hlength : (padded 4 year.natAbs).toList.length = 4 :=
      length_padded (by decide) (by omega)
    obtain ⟨c, cs, hcs, hdigit⟩ := exists_padded_append (by decide : 0 < 4) year.natAbs rest
    rw [yearSign, if_neg hnegative, if_neg hlong, List.nil_append, year?,
      trimStart_padded (by decide)]
    split
    next hminus =>
      obtain rfl := (List.cons.inj (hcs.symm.trans hminus)).1
      exact absurd hdigit (by decide)
    next hplus =>
      obtain rfl := (List.cons.inj (hcs.symm.trans hplus)).1
      exact absurd hdigit (by decide)
    next =>
      rw [hread hlength.le]
      exact congrArg (fun y => some (y, rest)) hvalue

/-- A fixed character is found where it is. -/
@[simp] theorem expect?_cons (c : Char) (rest : List Char) : expect? c (c :: rest) = some rest :=
  if_pos rfl

/-- A date is written as its year, its month and its day. -/
theorem Date.toList_text (d : Date) : d.text.toList =
    (yearText d.year).toList ++ '-' :: ((padded 2 d.month).toList ++
      '-' :: (padded 2 d.day).toList) := by
  simp [Date.text]

/-- A **date** is read back leniently. -/
theorem date?_text {d : Date} (hmonth : d.month < 100) (hday : d.day < 100) (rest : List Char) :
    date? (d.text.toList ++ rest) = some (d, rest) := by
  rw [Date.toList_text]
  simp [date?, year?_yearText, endsDigits_cons, part?_padded, hmonth, hday]

/-! ### Times -/

/-- A time that a clock shows. -/
theorem Clock.isValid_iff {c : Clock} :
    c.isValid ↔ ((c.hour < 24 ∧ c.minute < 60) ∧ c.second ≤ 60) ∧ c.nano < secondNanos := by
  simp [isValid]

/-- A time is written as its hour, its minute and its second with the fraction. -/
theorem Clock.toList_text (c : Clock) : c.text.toList =
    (padded 2 c.hour).toList ++ ':' :: ((padded 2 c.minute).toList ++
      ':' :: ((padded 2 c.second).toList ++ (Clock.fractionText c.nano).toList)) := by
  simp [Clock.text]

namespace Instant

variable {i : Instant}

/-- An instant is written as its date and its time. -/
theorem toList_localText (i : Instant) :
    i.localText.toList = i.date.text.toList ++ 'T' :: i.clock.text.toList := by
  simp [localText]

/-- The date of an instant is read back leniently. -/
theorem date?_date (i : Instant) (rest : List Char) :
    date? (i.date.text.toList ++ rest) = some (i.date, rest) :=
  date?_text (Date.ofNumber_lt i.day).1 (Date.ofNumber_lt i.day).2 rest

/-- The local text of an instant is **read back** leniently, if nothing is behind it. -/
theorem withoutOffset?_localText (h : i.clock.isValid) (hends : EndsDigits rest)
    (hpoint : rest.head? ≠ some '.') :
    withoutOffset? (i.localText.toList ++ rest) =
      if rest.isEmpty then instant? i.date i.clock 0 else none := by
  obtain ⟨⟨⟨hhour, hminute⟩, hsecond⟩, hnano⟩ := Clock.isValid_iff.mp h
  rw [toList_localText, Clock.toList_text]
  simp [withoutOffset?, date?_date, part?_padded (show i.clock.hour < 100 by omega),
    part?_padded (show i.clock.minute < 100 by omega),
    part?_padded (show i.clock.second < 100 by omega), fraction?_fractionText hnano hends hpoint]

/-- The text of an instant whose year has **four digits** is read back strictly. -/
theorem withOffset?_text (h : i.clock.isValid) (hfirst : 0 ≤ i.date.year)
    (hlast : i.date.year ≤ 9999) : withOffset? i.text.toList = instant? i.date i.clock 0 := by
  obtain ⟨⟨⟨hhour, hminute⟩, hsecond⟩, hnano⟩ := Clock.isValid_iff.mp h
  obtain ⟨hmonth, hday⟩ := Date.ofNumber_lt i.day
  have hsign : yearSign i.date.year = [] := by
    rw [yearSign, if_neg (by omega), if_neg (by omega)]
  have hyear : ∀ cs, number? 4 4 ((padded 4 i.date.year.natAbs).toList ++ cs) =
      some (i.date.year.natAbs, cs) :=
    number?_padded (by decide) (by decide) (by omega)
  have hpart : ∀ {n : Nat}, n < 100 → ∀ cs, number? 2 2 ((padded 2 n).toList ++ cs) =
      some (n, cs) :=
    fun hn cs => number?_padded (by decide) (by decide) hn cs
  have hfraction : fraction? ((Clock.fractionText i.clock.nano).toList ++ "+00:00".toList) =
      some (i.clock.nano, "+00:00".toList) :=
    fraction?_fractionText hnano (endsDigits_cons rfl _) (by decide)
  have hoffset : offset? "+00:00".toList = some (0, []) := by decide
  have hseparator : ∀ cs, separator? ('T' :: cs) = some cs := fun _ => rfl
  have hdate : (⟨(i.date.year.natAbs : Int), i.date.month, i.date.day⟩ : Date) = i.date := by
    rw [Int.natAbs_of_nonneg hfirst]
  rw [text, String.toList_append, toList_localText, Date.toList_text, toList_yearText, hsign,
    Clock.toList_text]
  simp only [withOffset?, List.nil_append, List.append_assoc, List.cons_append, hyear,
    hpart (show i.date.month < 100 from hmonth), hpart (show i.date.day < 100 from hday),
    hpart (show i.clock.hour < 100 by omega), hpart (show i.clock.minute < 100 by omega),
    hpart (show i.clock.second < 100 by omega), hseparator, hfraction, hoffset, expect?_cons,
    Option.bind_eq_bind, Option.bind_some, List.isEmpty_nil, if_true, hdate]

/-- If its year has more digits, or is negative, it is not. -/
theorem withOffset?_eq_none (h : i.date.year < 0 ∨ 9999 < i.date.year) :
    withOffset? i.text.toList = none := by
  obtain ⟨c, hsign, hc⟩ : ∃ c, yearSign i.date.year = [c] ∧ c.isDigit = false := by
    by_cases hnegative : i.date.year < 0
    · exact ⟨'-', if_pos hnegative, rfl⟩
    · refine ⟨'+', ?_, rfl⟩
      rw [yearSign, if_neg hnegative, if_pos (h.resolve_left hnegative)]
  have hnumber : ∀ cs, number? 4 4 (c :: cs) = none := by
    intro cs
    simp [number?, hc]
  rw [text, String.toList_append, toList_localText, Date.toList_text, toList_yearText, hsign]
  simp only [withOffset?, List.cons_append, List.nil_append, hnumber, Option.bind_eq_bind,
    Option.bind_none]

/-- The text of an instant is not the text of a date alone. -/
theorem ofDay?_eq_none (i : Instant) : ofDay? i.text.toList = none := by
  rw [text, String.toList_append, toList_localText, List.append_assoc]
  simp [ofDay?, date?_date]

end Instant

end Listing.Calendar
