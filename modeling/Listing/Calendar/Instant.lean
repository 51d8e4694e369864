import Listing.Calendar.Date

/-!
# Instants

An instant is a moment of universal time with the precision of a nanosecond. A leap second is kept
as a second nanosecond range behind the second before it, so that 23:59:60 stays apart from the
midnight that follows. `Instant.text` is the written form with offset `+00:00`.
-/

namespace Listing.Calendar

/-- The seconds of a day. -/
def daySeconds : Nat := 86400

/-- The nanoseconds of a second. -/
def secondNanos : Nat := 1000000000

/-- A moment of universal time. -/
structure Instant where
  /-- The number of the day, counted from the first day of the year 1. -/
  day : Int
  /-- The second of the day. -/
  second : Nat
  /-- The nanosecond, a whole second higher inside a leap second. -/
  nano : Nat
deriving DecidableEq, Repr, Inhabited

/-- The parts of a time of day as they are written. -/
structure Clock where
  /-- The hour, from 0 to 23. -/
  hour : Nat
  /-- The minute, from 0 to 59. -/
  minute : Nat
  /-- The second, from 0 to 60. -/
  second : Nat
  /-- The nanosecond inside the second. -/
  nano : Nat
deriving DecidableEq, Repr

namespace Clock

/-- Whether a clock shows the time; any minute may end with a leap second. -/
def isValid (c : Clock) : Bool :=
  c.hour < 24 && c.minute < 60 && c.second ≤ 60 && c.nano < secondNanos

/-- Midnight. -/
def midnight : Clock := ⟨0, 0, 0, 0⟩

/-- The fraction of a second as it is written: nothing, or three, six or nine digits. -/
def fractionText (nano : Nat) : String :=
  if nano = 0 then ""
  else if nano % 1000000 = 0 then "." ++ padded 3 (nano / 1000000)
  else if nano % 1000 = 0 then "." ++ padded 6 (nano / 1000)
  else "." ++ padded 9 nano

/-- A time of day as it is written. -/
def text (c : Clock) : String :=
  padded 2 c.hour ++ ":" ++ padded 2 c.minute ++ ":" ++ padded 2 c.second ++ fractionText c.nano

end Clock

namespace Instant

/-- The instant at which a clock that is `offset` seconds ahead of universal time shows a date and
a time. -/
def ofClock (date : Date) (clock : Clock) (offset : Int) : Instant :=
  let leap := clock.second = 60
  let second := if leap then 59 else clock.second
  let ofDay : Int := (clock.hour * 3600 + clock.minute * 60 + second : Nat) - offset
  ⟨date.number + ofDay / daySeconds, (ofDay % daySeconds).toNat,
    if leap then clock.nano + secondNanos else clock.nano⟩

/-- What a clock at universal time shows. -/
def clock (i : Instant) : Clock :=
  let leap : Bool := secondNanos ≤ i.nano
  ⟨i.second / 3600, i.second / 60 % 60, i.second % 60 + (if leap then 1 else 0),
    if leap then i.nano - secondNanos else i.nano⟩

/-- The date at universal time. -/
def date (i : Instant) : Date := Date.ofNumber i.day

/-- The written form of an instant without an offset. -/
def localText (i : Instant) : String := i.date.text ++ "T" ++ i.clock.text

/-- The written form of an instant. -/
def text (i : Instant) : String := i.localText ++ "+00:00"

end Instant

end Listing.Calendar
