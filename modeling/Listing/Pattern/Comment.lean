import Listing.Text.Blank

/-!
# Blanks and comments in expressions

In the verbose mode blanks and comments may stand between the parts of an expression. A comment
starts with a number sign and ends with its line. The functions here take the mode, so that the
rest of the reader need not tell the cases apart.
-/

namespace Listing.Pattern

open Text (isBlank)

/-- A text without the blanks and comments at its start, which may be in a comment. -/
def skipFrom (inComment : Bool) : List Char → List Char
  | [] => []
  | c :: cs =>
    if inComment then skipFrom (c ≠ '\n') cs
    else if isBlank c then skipFrom false cs
    else if c = '#' then skipFrom true cs
    else c :: cs

/-- A text without the blanks and comments at its start, if there can be any. -/
def skip (verbose : Bool) (cs : List Char) : List Char :=
  if verbose then skipFrom false cs else cs

/-- The next character that matters for telling a range from a minus sign. Of a number sign only
the character behind it is looked at. -/
def peek (verbose : Bool) (cs : List Char) : Option Char :=
  if !verbose then cs.head?
  else
    match Text.trimStart cs with
    | '#' :: rest => (Text.trimStart rest).head?
    | rest => rest.head?

/-- The characters that belong together, of which `taken` have been read, last one first, and what
follows. Every step takes a character, so a unit of `fuel` for each is enough. -/
def runFrom (verbose : Bool) (belongs : Char → Bool) (taken : List Char) :
    Nat → List Char → List Char × List Char
  | 0, cs => (taken.reverse, cs)
  | _ + 1, [] => (taken.reverse, [])
  | fuel + 1, c :: cs =>
    if belongs c then runFrom verbose belongs (c :: taken) fuel (skip verbose cs)
    else (taken.reverse, c :: cs)

/-- The longest run of characters that belong together and what follows it. Blanks and comments
inside the run are left out. -/
def run (verbose : Bool) (belongs : Char → Bool) (cs : List Char) : List Char × List Char :=
  runFrom verbose belongs [] cs.length cs

end Listing.Pattern
