import Listing.Json.Basic
import Listing.Number.Integer

/-!
# Records in documents

Settings and the answers of a store are records that are read from documents. A record is an
object, in which members that are not known do not count, or the list of its parts in their order.
`part?` reads a part that may be left out and `needed?` one that has to be there.

Messages and configuration files differ in what they accept besides; a `Dialect` says how.
-/

namespace Listing.Record

/-- A **dialect** of documents: what is accepted where a record or one of several words is
expected. -/
structure Dialect where
  /-- Whether the list of the parts of a record may go on behind the last part. -/
  longLists : Bool
  /-- Whether a document says nothing, so that it may stand under a word that is written as a
  name. -/
  saysNothing : Json → Bool
  /-- Whether a kind may be given by its number. -/
  numbered : Bool

/-- Messages: lists have no surplus, nothing is said by `null`, and kinds have numbers. -/
def Dialect.message : Dialect where
  longLists := false
  saysNothing
    | .null => true
    | _ => false
  numbered := true

/-- Configuration files: the surplus of a list does not count, nothing is said by what is empty, and
kinds have no numbers. -/
def Dialect.configuration : Dialect where
  longLists := true
  saysNothing
    | .array [] => true
    | .object [] => true
    | _ => false
  numbered := false

/-- What stands under the names of a record. -/
def parts? (d : Dialect) (names : List String) : Json → Option Members
  | .object members => some members
  | .array items =>
    if d.longLists || items.length ≤ names.length then some (names.zip items) else none
  | _ => none

variable {α : Type}

/-- A part of a record, or what stands for it if it is left out. -/
def part? (parts : Members) (name : String) (read : Json → Option α) (otherwise : α) : Option α :=
  match parts.get? name with
  | none => some otherwise
  | some j => read j

/-- A part of a record that has to be there. -/
def needed? (parts : Members) (name : String) (read : Json → Option α) : Option α :=
  (parts.get? name).bind read

/-- A part that may be absent. -/
def orAbsent? (read : Json → Option α) : Json → Option (Option α)
  | .null => some none
  | j => (read j).map some

/-- A natural number below a bound. -/
def natural? (bound : Nat) : Json → Option Nat
  | .integer n => if 0 ≤ n && n.toNat < bound then some n.toNat else none
  | _ => none

/-- A size. -/
def size? : Json → Option Nat := natural? Number.countBound

/-- A list. -/
def list? (read : Json → Option α) : Json → Option (List α)
  | .array items => items.mapM read
  | _ => none

/-- One of several words: as a text, or as the only name of an object under which nothing is
said. -/
def word? (d : Dialect) (read : String → Option α) : Json → Option α
  | .string w => read w
  | .object [(w, j)] => if d.saysNothing j then read w else none
  | _ => none

/-- A kind: its word, or its number among the words if the dialect numbers kinds. -/
def kind? (d : Dialect) (words : List String) : Json → Option String
  | .string w => if w ∈ words then some w else none
  | .integer n => if d.numbered && 0 ≤ n then words[n.toNat]? else none
  | _ => none

/-- The document of a part that may be absent. -/
def orNull (write : α → Json) : Option α → Json
  | none => .null
  | some a => write a

/-- A natural number as a document. -/
def ofNatural (n : Nat) : Json := .integer n

/-- A size that fits a machine word is read back. -/
theorem size?_ofNatural {n : Nat} (h : n < Number.countBound) : size? (ofNatural n) = some n := by
  simp [size?, natural?, ofNatural, h]

end Listing.Record
