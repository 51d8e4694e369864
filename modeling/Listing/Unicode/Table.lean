import Listing.Unicode.Ranges

/-!
# Written tables of characters

The members of a property are written as words of hexadecimal code points: `41` is one character,
`41-5A` a range and `100-12E/2` every other character of a range, as capital and small letters
often alternate. `Table.ranges` reads such words. A `Value` is a value of a property: the names
that it goes by and its members.

Names are compared loosely: case, blanks, underscores and hyphens do not matter, and neither does
a leading `is`.
-/

namespace Listing.Unicode

/-! ### Members -/

namespace Table

/-- The value of a hexadecimal digit; anything else counts as zero. -/
def digit (c : Char) : Nat := if c.isDigit then c.toNat - 48 else c.toNat - 55

/-- The number that hexadecimal digits stand for. -/
def number (digits : List Char) : Nat := digits.foldl (fun n c => n * 16 + digit c) 0

/-- The ranges that one word stands for. -/
def word (cs : List Char) : Ranges :=
  let first := number (cs.takeWhile (· ≠ '-'))
  let rest := (cs.dropWhile (· ≠ '-')).drop 1
  let last := number (rest.takeWhile (· ≠ '/'))
  if rest.isEmpty then [(first, first)]
  else if rest.contains '/' then
    (List.range ((last - first) / 2 + 1)).map fun i => (first + 2 * i, first + 2 * i)
  else [(first, last)]

/-- The words of a line, where `pending` are the characters since the last blank, last one
first. -/
def words (pending : List Char) : List Char → Ranges
  | [] => if pending.isEmpty then [] else word pending.reverse
  | ' ' :: cs => word pending.reverse ++ words [] cs
  | c :: cs => words (c :: pending) cs

/-- The ranges that lines of words stand for. -/
def ranges (lines : List String) : Ranges := lines.flatMap fun line => words [] line.toList

end Table

/-! ### Names -/

/-- The characters of a name that matter for its comparison. -/
def significant (cs : List Char) : List Char :=
  (cs.filter fun c => c.toNat < 128 && c ∉ [' ', '_', '-']).map Char.toLower

/-- A name as it is compared: without a leading `is`, except for the one name that would be a
single `c` without it. -/
def looseName (name : String) : List Char :=
  match name.toList with
  | a :: b :: rest =>
    if a.toLower = 'i' ∧ b.toLower = 's' then
      let rest := significant rest
      if rest = ['c'] then ['i', 's', 'c'] else rest
    else significant (a :: b :: rest)
  | cs => significant cs

/-- A value of a property. -/
structure Value where
  /-- The names of the value. -/
  names : List String
  /-- Lines of words for its members. -/
  members : List String

namespace Value

/-- Whether the value has a name, which is given as it is compared. -/
def isNamed (v : Value) (name : List Char) : Bool := v.names.any (looseName · == name)

/-- The characters that have the value. -/
def ranges (v : Value) : Ranges := Table.ranges v.members

/-- The members of the value that has a name, which is given as it is compared. -/
def find? (values : List Value) (name : List Char) : Option Ranges :=
  (values.find? (·.isNamed name)).map ranges

end Value

end Listing.Unicode
