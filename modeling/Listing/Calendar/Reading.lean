import Listing.Calendar.Instant
import Listing.Text.Blank

/-!
# Reading instants

Three forms are read: a date and a time with an offset from universal time, the same without an
offset, and a date alone, which stands for its first moment. The form with an offset asks for all
digits. The other two read each number leniently: blanks may stand in front of it, it may have
fewer digits, and a year with a sign may have more.
-/

namespace Listing.Calendar

/-- The number that the leading digits denote, of which there are at least one. -/
def digitsValue (ds : List Char) : Nat := ds.foldl (fun n c => n * 10 + (c.toNat - 48)) 0

/-- A number of at least `least` and at most `most` digits; of more digits the first `most` are
read. -/
def number? (least most : Nat) (cs : List Char) : Option (Nat × List Char) :=
  let ds := (cs.take most).takeWhile Char.isDigit
  if ds.length < least then none else some (digitsValue ds, cs.drop ds.length)

/-- One fixed character. -/
def expect? (c : Char) : List Char → Option (List Char)
  | d :: rest => if d = c then some rest else none
  | [] => none

/-- The fraction of a second behind its point: at least one digit, of which nine count. -/
def nano? (cs : List Char) : Option (Nat × List Char) := do
  let (value, rest) ← number? 1 9 cs
  let places := cs.length - rest.length
  return (value * Nat.pow 10 (9 - places), rest.dropWhile Char.isDigit)

/-- The fraction of a second, if there is one. -/
def fraction? : List Char → Option (Nat × List Char)
  | '.' :: rest => nano? rest
  | cs => some (0, cs)

/-! ### With an offset -/

/-- An offset from universal time in seconds: the letter `Z`, or a sign, hours and minutes. -/
def offset? : List Char → Option (Int × List Char)
  | [] => none
  | c :: rest =>
    if c = 'Z' || c = 'z' then some (0, rest)
    else if c = '+' || c = '-' || c.toNat = 0x2212 then do
      let (hours, rest) ← number? 2 2 rest
      let rest ← expect? ':' rest
      let (minutes, rest) ← number? 2 2 rest
      if 59 < minutes || 23 < hours then none
      else
        let seconds : Int := ((hours * 60 + minutes) * 60 : Nat)
        return (if c = '+' then seconds else -seconds, rest)
    else none

/-- The mark between a date and a time. -/
def separator? : List Char → Option (List Char)
  | c :: rest => if c = 'T' || c = 't' || c = ' ' then some rest else none
  | [] => none

/-- The instant of a date and a time that exist. -/
def instant? (date : Date) (clock : Clock) (offset : Int) : Option Instant :=
  if date.isValid && clock.isValid then some (Instant.ofClock date clock offset) else none

/-- An instant with an offset. -/
def Instant.withOffset? (cs : List Char) : Option Instant := do
  let (year, rest) ← number? 4 4 cs
  let rest ← expect? '-' rest
  let (month, rest) ← number? 2 2 rest
  let rest ← expect? '-' rest
  let (day, rest) ← number? 2 2 rest
  let rest ← separator? rest
  let (hour, rest) ← number? 2 2 rest
  let rest ← expect? ':' rest
  let (minute, rest) ← number? 2 2 rest
  let rest ← expect? ':' rest
  let (second, rest) ← number? 2 2 rest
  let (nano, rest) ← fraction? rest
  let (offset, rest) ← offset? rest
  if rest.isEmpty then instant? ⟨year, month, day⟩ ⟨hour, minute, second, nano⟩ offset else none

/-! ### Without an offset -/

/-- A number of one or two digits behind any blanks. -/
def part? (cs : List Char) : Option (Nat × List Char) := number? 1 2 (Text.trimStart cs)

/-- A year behind any blanks: any number of digits behind a sign, else up to four. -/
def year? (cs : List Char) : Option (Int × List Char) :=
  match Text.trimStart cs with
  | '-' :: rest => (number? 1 rest.length rest).map fun (n, tail) => (-(n : Int), tail)
  | '+' :: rest => (number? 1 rest.length rest).map fun (n, tail) => ((n : Int), tail)
  | rest => (number? 1 4 rest).map fun (n, tail) => ((n : Int), tail)

/-- A date, year first. -/
def date? (cs : List Char) : Option (Date × List Char) := do
  let (year, rest) ← year? cs
  let rest ← expect? '-' rest
  let (month, rest) ← part? rest
  let rest ← expect? '-' rest
  let (day, rest) ← part? rest
  return (⟨year, month, day⟩, rest)

/-- An instant without an offset, taken as universal time. -/
def Instant.withoutOffset? (cs : List Char) : Option Instant := do
  let (date, rest) ← date? cs
  let rest ← expect? 'T' rest
  let (hour, rest) ← part? rest
  let rest ← expect? ':' rest
  let (minute, rest) ← part? rest
  let rest ← expect? ':' rest
  let (second, rest) ← part? rest
  let (nano, rest) ← fraction? rest
  if rest.isEmpty then instant? date ⟨hour, minute, second, nano⟩ 0 else none

/-- The first moment of a date. -/
def Instant.ofDay? (cs : List Char) : Option Instant := do
  let (date, rest) ← date? cs
  if rest.isEmpty then instant? date Clock.midnight 0 else none

/-- The instant that a text denotes in one of the three forms. -/
def Instant.read? (s : String) : Option Instant :=
  let cs := s.toList
  match Instant.withOffset? cs with
  | some i => some i
  | none =>
    match Instant.withoutOffset? cs with
    | some i => some i
    | none => Instant.ofDay? cs

end Listing.Calendar
