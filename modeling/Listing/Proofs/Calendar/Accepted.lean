import Listing.Proofs.Calendar.Written
import Listing.Sql.Compile

/-!
# Which Instants Are Accepted Again

An instant that has been read from a text is sent to a store in its own written form, and that form
is read as the same instant, leap seconds and all nine places of a fraction included, as long as its
year has four digits. The lenient forms read years with a sign, and an offset can move the first and
the last of the years with four digits out of their range; the written form of such an instant is in
none of the three forms.

## Main results

* `Instant.isProper_of_read?` — every instant that is read is **proper**.
* `Instant.IsProper.ofClock_clock` — a proper instant is the one that its date and its clock show.
* `Instant.IsProper.read?_text` — the text of a proper instant is read if its year has four digits.
* `read?_text_of_read?` — so for everything that is accepted as a value.
-/

namespace Listing.Calendar

/-- A **proper** instant: its second is one of a day, and its nanosecond one of that second or of a
leap second behind the last second of a minute. -/
structure Instant.IsProper (i : Instant) : Prop where
  /-- The second is one of a day. -/
  second_lt : i.second < daySeconds
  /-- The nanosecond is one of two seconds. -/
  nano_lt : i.nano < 2 * secondNanos
  /-- Only the last second of a minute is followed by a leap second. -/
  second_mod : secondNanos ≤ i.nano → i.second % 60 = 59

/-! ### Instants that are read -/

/-- Offsets are whole minutes. -/
theorem offset?_mod {cs rest : List Char} {offset : Int} (h : offset? cs = some (offset, rest)) :
    offset % 60 = 0 := by
  cases cs with
  | nil => cases h
  | cons c cs =>
    rw [offset?] at h
    split at h
    · obtain ⟨rfl, -⟩ := Prod.mk.inj (Option.some.inj h)
      rfl
    split at h
    · simp only [Option.bind_eq_bind, Option.bind_eq_some_iff] at h
      obtain ⟨hours, -, rest', -, minutes, -, h⟩ := h
      split at h
      · cases h
      · obtain ⟨hvalue, -⟩ := Prod.mk.inj (Option.some.inj h)
        split at hvalue <;> omega
    · cases h

namespace Instant

variable {i : Instant}

/-- The instant of a date and a time that exist is proper. -/
theorem isProper_of_instant? {date : Date} {clock : Clock} {offset : Int}
    (h : instant? date clock offset = some i) (hoffset : offset % 60 = 0) : i.IsProper := by
  rw [instant?] at h
  split at h
  next hvalid =>
    rw [Bool.and_eq_true, Clock.isValid_iff] at hvalid
    obtain ⟨-, ⟨⟨hhour, hminute⟩, hsecond⟩, hnano⟩ := hvalid
    obtain rfl := Option.some.inj h
    rw [secondNanos] at hnano
    simp only [ofClock]
    constructor <;> simp only [daySeconds, secondNanos] <;> split <;> omega
  next => cases h

/-- An instant that is read with an offset is proper. -/
theorem isProper_of_withOffset? {cs : List Char} (h : withOffset? cs = some i) : i.IsProper := by
  simp only [withOffset?, Option.bind_eq_bind, Option.bind_eq_some_iff] at h
  obtain ⟨_, -, _, -, _, -, _, -, _, -, _, -, _, -, _, -, _, -, _, -, _, -, _, -, ⟨offset, _⟩,
    hoffset, h⟩ := h
  split at h
  next => exact isProper_of_instant? h (offset?_mod hoffset)
  next => cases h

/-- An instant that is read without an offset is proper. -/
theorem isProper_of_withoutOffset? {cs : List Char} (h : withoutOffset? cs = some i) :
    i.IsProper := by
  simp only [withoutOffset?, Option.bind_eq_bind, Option.bind_eq_some_iff] at h
  obtain ⟨_, -, _, -, _, -, _, -, _, -, _, -, _, -, _, -, h⟩ := h
  split at h
  next => exact isProper_of_instant? h rfl
  next => cases h

/-- The first moment of a date is proper. -/
theorem isProper_of_ofDay? {cs : List Char} (h : ofDay? cs = some i) : i.IsProper := by
  simp only [ofDay?, Option.bind_eq_bind, Option.bind_eq_some_iff] at h
  obtain ⟨_, -, h⟩ := h
  split at h
  next => exact isProper_of_instant? h rfl
  next => cases h

/-- Every instant that is read is **proper**. -/
theorem isProper_of_read? {s : String} (h : read? s = some i) : i.IsProper := by
  simp only [read?] at h
  split at h
  next hoffset =>
    obtain rfl := Option.some.inj h
    exact isProper_of_withOffset? hoffset
  split at h
  next hlocal =>
    obtain rfl := Option.some.inj h
    exact isProper_of_withoutOffset? hlocal
  next => exact isProper_of_ofDay? h

/-! ### Instants that are read again -/

/-- In a **leap second** the clock shows the second behind the last one of a minute. -/
theorem IsProper.clock_of_leap (h : i.IsProper) (hleap : secondNanos ≤ i.nano) :
    i.clock = ⟨i.second / 3600, i.second / 60 % 60, 60, i.nano - secondNanos⟩ := by
  simp only [clock, hleap, decide_true, if_true, h.second_mod hleap]

/-- In any other second the clock shows the second itself. -/
theorem clock_of_lt (hleap : i.nano < secondNanos) :
    i.clock = ⟨i.second / 3600, i.second / 60 % 60, i.second % 60, i.nano⟩ := by
  simp only [clock, Nat.not_le.mpr hleap, decide_false, Bool.false_eq_true, if_false, Nat.add_zero]

/-- The clock of a proper instant shows a time. -/
theorem IsProper.isValid_clock (h : i.IsProper) : i.clock.isValid := by
  have hsecond := h.second_lt
  have hnano := h.nano_lt
  rw [daySeconds] at hsecond
  rw [Clock.isValid_iff]
  by_cases hleap : secondNanos ≤ i.nano
  · rw [h.clock_of_leap hleap]
    dsimp only
    omega
  · rw [clock_of_lt (Nat.lt_of_not_le hleap)]
    dsimp only
    omega

/-- A proper instant is the one that its date and its clock **show**. -/
theorem IsProper.ofClock_clock (h : i.IsProper) : ofClock i.date i.clock 0 = i := by
  have hnumber : i.date.number = i.day := Date.number_ofNumber i.day
  have hsecond := h.second_lt
  rw [daySeconds] at hsecond
  by_cases hleap : secondNanos ≤ i.nano
  · have hmod := h.second_mod hleap
    rw [h.clock_of_leap hleap, ofClock, hnumber]
    simp only [daySeconds, if_true]
    congr <;> omega
  · have hlast : i.second % 60 ≠ 60 := by omega
    rw [clock_of_lt (Nat.lt_of_not_le hleap), ofClock, hnumber]
    simp only [daySeconds, hlast, if_false]
    congr <;> omega

/-- The text of a proper instant is read as the **same instant** if its year has four digits, and
is not read otherwise. -/
theorem IsProper.read?_text (h : i.IsProper) :
    read? i.text = if 0 ≤ i.date.year ∧ i.date.year ≤ 9999 then some i else none := by
  by_cases hyear : 0 ≤ i.date.year ∧ i.date.year ≤ 9999
  · obtain ⟨hfirst, hlast⟩ := hyear
    have hvalid : i.date.isValid := Date.isValid_ofNumber
      (Int.le_trans (show firstYear ≤ 0 by decide) hfirst)
      (Int.le_trans hlast (show 9999 ≤ lastYear by decide))
    have hoffset : withOffset? i.text.toList = some i := by
      rw [withOffset?_text h.isValid_clock hfirst hlast, instant?, hvalid, h.isValid_clock,
        h.ofClock_clock]
      rfl
    rw [if_pos ⟨hfirst, hlast⟩]
    simp only [read?, hoffset]
  · have hends : EndsDigits "+00:00".toList := endsDigits_cons rfl _
    have hlocal : withoutOffset? i.text.toList = none := by
      rw [text, String.toList_append,
        withoutOffset?_localText h.isValid_clock hends (by decide)]
      rfl
    have hoffset : withOffset? i.text.toList = none := withOffset?_eq_none (by omega)
    rw [if_neg hyear]
    simp only [read?, hoffset, hlocal, ofDay?_eq_none]

end Instant

/-! ### Values that are accepted -/

/-- Everything that is accepted as an instant is sent to both stores in its written form, which is
read as the **same instant** if the year at universal time has four digits, and is not read
otherwise. -/
theorem read?_text_of_read? {raw : String} {v : Value} (h : Value.read? .instant raw = some v) :
    ∃ i, v = .instant i ∧ v.json = .string i.text ∧
      (Sql.literalOf v).text = "CAST(" ++ Sql.quoteText i.text ++ " AS TIMESTAMPTZ)" ∧
      Instant.read? i.text =
        if 0 ≤ i.date.year ∧ i.date.year ≤ 9999 then some i else none := by
  simp only [Value.read?] at h
  obtain ⟨i, hi, rfl⟩ := Option.map_eq_some_iff.mp h
  refine ⟨i, rfl, rfl, ?_, (Instant.isProper_of_read? hi).read?_text⟩
  rw [Sql.literalOf, Sql.Literal.text]

/-- A leap second with a fraction, at another offset from universal time. -/
theorem read?_text_of_read?_leap :
    let raw := " 2024-12-31T23:59:60.0625+00:30 "
    let i : Instant := ⟨739250, 84599, 1062500000⟩
    Value.read? .instant raw = some (.instant i) ∧ i.text = "2024-12-31T23:29:60.062500+00:00" ∧
      (0 ≤ i.date.year ∧ i.date.year ≤ 9999) ∧ Instant.read? i.text = some i := by
  intro raw i
  have haccepted : Value.read? .instant raw = some (.instant i) := by decide +kernel
  have hyear : 0 ≤ i.date.year ∧ i.date.year ≤ 9999 := by decide +kernel
  obtain ⟨i', hi', -, -, hagain⟩ := read?_text_of_read? haccepted
  obtain rfl := Value.instant.inj hi'
  rw [if_pos hyear] at hagain
  exact ⟨haccepted, by decide +kernel, hyear, hagain⟩

/-- A year of five digits is accepted, and its written form is **not read again**. -/
theorem read?_text_year_10000 :
    let i : Instant := ⟨3652059, 0, 0⟩
    Value.read? .instant "+10000-01-01" = some (.instant i) ∧
      (Value.instant i).json = .string "+10000-01-01T00:00:00+00:00" ∧
      Instant.read? i.text = none := by
  intro i
  have htext : i.text = "+10000-01-01T00:00:00+00:00" := by decide +kernel
  refine ⟨by decide +kernel, congrArg Json.string htext, ?_⟩
  rw [htext]
  decide +kernel

end Listing.Calendar
