import Listing.Pattern.Automaton
import Listing.Pattern.Normal
import Listing.Pattern.Reader
import Listing.Pattern.Segment

/-!
# Checking patterns

A pattern is accepted if its raw pieces keep to the constructs that both stores know and if the
whole expression for the relational store is one whose automaton is of moderate size.
-/

namespace Listing.Pattern

/-- The first construct of a raw piece that only one of the stores knows: a backslash in front of a
letter or digit, or a group that starts with a question mark. -/
def portableFault? : List Char → Option PatternFault
  | [] => none
  | ['\\'] => none
  | '\\' :: c :: rest => if c.isAlphanum then some (.unsupportedEscape c) else portableFault? rest
  | '(' :: '?' :: _ => some .unsupportedGroup
  | _ :: rest => portableFault? rest

/-- The first construct of a pattern that only one of the stores knows. -/
def unportable? (p : Pattern) : Option PatternFault :=
  p.findSome? fun
    | .raw text => portableFault? text
    | _ => none

/-- Why a pattern is refused, if it is. -/
def check (p : Pattern) : Except PatternFault Unit :=
  match unportable? p with
  | some fault => .error fault
  | none => do
    let e ← Expression.read (posix p)
    let t ← e.term
    if !t.fits PatternFault.sizeLimit then throw .tooLarge

end Listing.Pattern
