import Listing.Unicode.Query

/-!
# Sets of characters

What stands between the brackets of an expression, as a tree. Which characters it consists of
depends on the modes in force and is said in `Listing.Pattern.Members`. `CharSet.depth` is the depth
of the brackets and operations.
-/

namespace Listing.Pattern

open Unicode (Ranges)

/-- A character as it is written. -/
structure Literal where
  /-- The character. -/
  char : Char
  /-- Whether it is given by exactly two hexadecimal digits, and so may be meant as a byte. -/
  isByte : Bool
deriving DecidableEq, Repr, Inhabited

/-- An operation on two sets. -/
inductive SetOperation where
  /-- The characters in both. -/
  | intersection
  /-- The characters in the first and not in the second. -/
  | difference
  /-- The characters in one but not in both. -/
  | symmetricDifference
deriving DecidableEq, Repr

/-- A set that goes by a name. -/
inductive NamedSet where
  /-- The decimal digits. -/
  | digit
  /-- The blanks. -/
  | blank
  /-- The characters of words. -/
  | word
  /-- The characters with a property. -/
  | property (query : Unicode.Query)
deriving DecidableEq, Repr

/-- A set of characters as it is written. -/
inductive CharSet where
  /-- No character. -/
  | nothing
  /-- One character. -/
  | char (c : Literal)
  /-- The characters from one to another. -/
  | range (first last : Literal)
  /-- A set of ASCII characters with a name, or the characters outside it. -/
  | ascii (ranges : Ranges) (negated : Bool)
  /-- Another set with a name, or the characters outside it. -/
  | named (s : NamedSet) (negated : Bool)
  /-- A set in brackets, or the characters outside it. -/
  | bracketed (negated : Bool) (s : CharSet)
  /-- The characters of several sets. -/
  | union (sets : List CharSet)
  /-- An operation on two sets. -/
  | binary (op : SetOperation) (a b : CharSet)
deriving Repr, Inhabited

namespace CharSet

/-- The set of several items. -/
def ofItems : List CharSet → CharSet
  | [] => nothing
  | [s] => s
  | sets => union sets

mutual

/-- The depth of brackets, lists and operations. -/
def depth : CharSet → Nat
  | bracketed _ s => s.depth + 1
  | union sets => depthOfAll sets + 1
  | binary _ a b => max a.depth b.depth + 1
  | _ => 0

/-- The largest depth of several sets. -/
def depthOfAll : List CharSet → Nat
  | [] => 0
  | s :: rest => max s.depth (depthOfAll rest)

end

/-- The ASCII digits. -/
def asciiDigits : Ranges := [(48, 57)]

/-- The ASCII blanks. -/
def asciiBlanks : Ranges := [(9, 13), (32, 32)]

/-- The ASCII characters of words. -/
def asciiWord : Ranges := [(48, 57), (65, 90), (95, 95), (97, 122)]

/-- The sets of ASCII characters that have a name, in normal form. -/
def asciiNamed : List (String × Ranges) :=
  [("alnum", [(48, 57), (65, 90), (97, 122)]),
    ("alpha", [(65, 90), (97, 122)]),
    ("ascii", [(0, 127)]),
    ("blank", [(9, 9), (32, 32)]),
    ("cntrl", [(0, 31), (127, 127)]),
    ("digit", asciiDigits),
    ("graph", [(33, 126)]),
    ("lower", [(97, 122)]),
    ("print", [(32, 126)]),
    ("punct", [(33, 47), (58, 64), (91, 96), (123, 126)]),
    ("space", asciiBlanks),
    ("upper", [(65, 90)]),
    ("word", asciiWord),
    ("xdigit", [(48, 57), (65, 70), (97, 102)])]

end CharSet

end Listing.Pattern
