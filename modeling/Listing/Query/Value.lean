import Listing.Calendar.Reading
import Listing.Json.Basic
import Listing.Number.Integer
import Listing.Number.Reading
import Listing.Schema.Field

/-!
# Values

A value that a field is compared with, already of the field's type. `Value.read?` reads a text as
a value of a type, and `Value.json` is the value in a document.
-/

namespace Listing

open Number (Binary64)

/-- A value to compare a field with. -/
inductive Value where
  /-- No value. -/
  | null
  /-- A text. -/
  | text (s : String)
  /-- A signed 64-bit integer. -/
  | integer (n : Int)
  /-- A floating-point number. -/
  | float (x : Binary64)
  /-- A truth value. -/
  | boolean (b : Bool)
  /-- A moment of time. -/
  | instant (i : Calendar.Instant)
deriving DecidableEq, Repr

namespace Value

/-- Whether the value is none. -/
def isNull : Value → Bool
  | null => true
  | _ => false

/-- The type of a value, if it is one. -/
def type? : Value → Option FieldType
  | null => none
  | text _ => some .text
  | integer _ => some .integer
  | float _ => some .float
  | boolean _ => some .boolean
  | instant _ => some .instant

/-- A truth value as it is read from a text: a word or a digit. -/
def boolean? (cs : List Char) : Option Bool :=
  let word := String.ofList (Text.lowerAscii cs)
  if word = "true" || word = "1" then some true
  else if word = "false" || word = "0" then some false
  else none

/-- The value of a type that a text denotes. Blanks around it do not count, unless it is a text;
infinity is no value. -/
def read? (type : FieldType) (raw : String) : Option Value :=
  let cs := Text.trim raw.toList
  match type with
  | .text => some (text raw)
  | .integer => (Number.signed? cs).map integer
  | .float => ((Number.binary64? cs).filter (·.isFinite)).map float
  | .boolean => (boolean? cs).map boolean
  | .instant => (Calendar.Instant.read? (String.ofList cs)).map instant

/-- A value in a document. -/
def json : Value → Json
  | null => .null
  | text s => .string s
  | integer n => .integer n
  | float x => .ofBinary64 x
  | boolean b => .bool b
  | instant i => .string i.text

end Value

end Listing
