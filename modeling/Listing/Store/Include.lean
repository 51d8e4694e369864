import Listing.Json.Basic
import Listing.Query.Model
import Listing.Sql.Basic

/-!
# Related records

A relation is followed for all records of a page at once. The values by which the records refer to
the related ones are collected, each once; the related records are asked for and filed under
their keys; and every record gets those that belong to it under the name of the relation. Two values
are the same if their texts in a document are, so `3` and `3.0` are not.
-/

namespace Listing.Store

/-- The text by which a value refers to another record. Only numbers, texts and truth values do. -/
def referenceKey? : Json → Option String
  | .integer n => some (Json.integer n).text
  | .float x => some (Json.float x).text
  | .string s => some (Json.string s).text
  | .bool b => some (Json.bool b).text
  | _ => none

/-- The text by which a member of a record refers to another record. -/
def keyAt? (name : String) (record : Members) : Option String :=
  (Members.get? name record).bind referenceKey?

/-- The values that are not among those seen before and are not repeated. -/
def distinctFrom (seen : List String) : List Json → List Json
  | [] => []
  | j :: rest =>
    match referenceKey? j with
    | none => distinctFrom seen rest
    | some key =>
      if key ∈ seen then distinctFrom seen rest else j :: distinctFrom (key :: seen) rest

/-- The values of a member by which records refer to others, each once, in the order of the
records. -/
def references (name : String) (records : List Members) : List Json :=
  distinctFrom [] (records.filterMap (Members.get? name))

/-- A value by which records refer to others as a constant. Integers that do not fit are rounded. -/
def referenceLiteral? : Json → Option Sql.Literal
  | .integer n =>
    if -(Number.signedBound : Int) ≤ n ∧ n < Number.signedBound then some (.integer n)
    else some (.float (Number.Binary64.ofInt n))
  | .float x => some (.float x)
  | .string s => some (.string s)
  | .bool b => some (.boolean b)
  | _ => none

/-- The related records by their keys; of several with a key the last one counts. -/
def lastByKey (name : String) (related : List Members) : Members :=
  Members.ofPairs (related.filterMap fun row => (keyAt? name row).map (·, Json.object row))

/-- Puts a row behind those of its key. -/
def addRow (key : String) (row : Json) : List (String × List Json) → List (String × List Json)
  | [] => [(key, [row])]
  | (k, rows) :: rest =>
    if k = key then (k, rows ++ [row]) :: rest else (k, rows) :: addRow key row rest

/-- Puts a row behind those of its key, if it has one. -/
def fileRow (name : String) (groups : List (String × List Json)) (row : Members) :
    List (String × List Json) :=
  match keyAt? name row with
  | none => groups
  | some key => addRow key (.object row) groups

/-- The related records by their keys, those with a key in order. -/
def allByKey (name : String) (related : List Members) : List (String × List Json) :=
  related.foldl (fileRow name) []

/-- Gives each record the one related record that it refers to, or none. -/
def attachOne (relation : String) (localName : Option String) (identity : String)
    (related : List Members) : Members → Members :=
  let rows := lastByKey identity related
  fun record =>
    let found := (localName.bind fun name => keyAt? name record).bind fun key =>
      Members.get? key rows
    Members.insert relation (found.getD .null) record

/-- Gives each record the related records that refer to it. -/
def attachMany (relation identity foreign : String) (related : List Members) :
    Members → Members :=
  let groups := allByKey foreign related
  fun record =>
    let found := (keyAt? identity record).bind fun key => groups.lookup key
    Members.insert relation (.array (found.getD [])) record

end Listing.Store
