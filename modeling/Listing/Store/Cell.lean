import Listing.Calendar.Instant
import Listing.Json.Reader
import Listing.Number.Integer
import Listing.Number.Shortest
import Listing.Store.Report

/-!
# Rows

The relational store returns each value as bytes together with its type. `Cell.json` is the value in
a record. What is not there, what cannot be read as its type and what has a type without a form in
records becomes `null`.

Dates count days and times microseconds from the start of the year 2000.
-/

namespace Listing.Store

/-- A column of an answer. -/
structure Column where
  /-- The name of the column. -/
  name : String
  /-- The name of the type of its values. -/
  type : String
deriving DecidableEq, Repr

/-- The bytes of a value, or none if there is no value. -/
abbrev Cell := Option (List UInt8)

/-- The rows that a statement selects. -/
structure RowSet where
  /-- The columns. -/
  columns : List Column
  /-- The rows, with a value for each column. -/
  rows : List (List Cell)
deriving Repr

namespace Cell

/-- The number whose bytes are given, highest first. -/
def word (bs : List UInt8) : Nat := bs.foldl (fun n b => n * 256 + b.toNat) 0

/-- The number of a given count of bytes. -/
def word? (count : Nat) (bs : List UInt8) : Option Nat :=
  if bs.length = count then some (word bs) else none

/-- The signed number of a given count of bytes. -/
def signed? (count : Nat) (bs : List UInt8) : Option Int :=
  (word? count bs).map fun n =>
    if 2 * n < Nat.pow 256 count then (n : Int) else (n : Int) - Nat.pow 256 count

/-- The text whose bytes are given. -/
def text? (bs : List UInt8) : Option String := String.fromUTF8? ⟨bs.toArray⟩

/-- The number of the first day of the year 2000. -/
def epochDay : Int := (Calendar.Date.mk 2000 1 1).number

/-- The microseconds of a day. -/
def dayMicros : Int := 86400000000

/-- The date that is some days after the start of the year 2000. -/
def date? (days : Int) : Option Calendar.Date :=
  if days = 2147483647 || days = -2147483648 then none
  else (some (Calendar.Date.ofNumber (epochDay + days))).filter (·.isValid)

/-- The instant that is some microseconds after the start of the year 2000. -/
def instant? (micros : Int) : Option Calendar.Instant :=
  if micros = Number.maxSigned || micros = -(Number.signedBound : Int) then none
  else
    let ofDay := (micros % dayMicros).toNat
    let instant : Calendar.Instant :=
      ⟨epochDay + micros / dayMicros, ofDay / 1000000, ofDay % 1000000 * 1000⟩
    if instant.date.isValid then some instant else none

/-- The time of day that is some microseconds after midnight. -/
def clock (micros : Int) : Calendar.Clock :=
  let ofDay := (micros % dayMicros).toNat
  (Calendar.Instant.mk 0 (ofDay / 1000000) (ofDay % 1000000 * 1000)).clock

/-- The types whose values are texts. -/
def textTypes : List String := ["varchar", "text", "bpchar", "name", "unknown", "citext"]

/-- The value of some bytes of a type. -/
def value? (type : String) (bs : List UInt8) : Option Json :=
  if type = "bool" then (word? 1 bs).map fun n => .bool (n ≠ 0)
  else if type = "int2" then (signed? 2 bs).map .integer
  else if type = "int4" then (signed? 4 bs).map .integer
  else if type = "int8" then (signed? 8 bs).map .integer
  else if type = "float4" then
    (word? 4 bs).map fun n => .ofBinary64 (.ofBinary32 (UInt32.ofNat n))
  else if type = "float8" then (word? 8 bs).map fun n => .ofBinary64 ⟨UInt64.ofNat n⟩
  else if type = "date" then ((signed? 4 bs).bind date?).map fun d => .string d.text
  else if type = "time" then (signed? 8 bs).map fun n => .string (clock n).text
  else if type = "timestamp" || type = "timestamptz" then
    ((signed? 8 bs).bind instant?).map fun i => .string i.text
  else if type = "json" then (text? bs).bind Json.read?
  else if type = "jsonb" then
    match bs with
    | 1 :: rest => (text? rest).bind Json.read?
    | _ => none
  else if type ∈ textTypes then (text? bs).map .string
  else none

/-- A value in a record. -/
def json (type : String) (cell : Cell) : Json := (cell.bind (value? type)).getD .null

end Cell

/-- A row as a record. Of columns with the same name the last one counts. -/
def rowRecord (columns : List Column) (row : List Cell) : Members :=
  Members.ofPairs ((columns.zip row).map fun (c, cell) => (c.name, Cell.json c.type cell))

/-- The rows of an answer as records. -/
def RowSet.records (r : RowSet) : List Members := r.rows.map (rowRecord r.columns)

/-- The number that an answer with one row starts with. -/
def RowSet.count? (r : RowSet) : Except Report Int :=
  let cause := "error deserializing column 0"
  match r.rows with
  | [row] =>
    match r.columns, row with
    | column :: _, cell :: _ =>
      if column.type ≠ "int8" then
        .error (.ofClient cause (some ("cannot convert between the Rust type `i64` and the " ++
          "Postgres type `" ++ column.type ++ "`")))
      else
        match cell with
        | none => .error (.ofClient cause (some "a Postgres value was `NULL`"))
        | some bs =>
          match Cell.signed? 8 bs with
          | some n => .ok n
          | none =>
            .error (.ofClient cause
              (some (if bs.length < 8 then "failed to fill whole buffer"
                else "invalid buffer size")))
    | _, _ => .error (.ofClient "invalid column `0`" none)
  | _ => .error (.ofClient "query returned an unexpected number of rows" none)

end Listing.Store
