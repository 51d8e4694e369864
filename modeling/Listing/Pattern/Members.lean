import Listing.Pattern.Expression
import Listing.Pattern.Fault
import Listing.Unicode.Casing

/-!
# The members of sets

Which characters a set consists of when certain modes are in force. Where characters are bytes, a
set must keep to ASCII, because any other byte is only a part of a character.
-/

namespace Listing.Pattern

open Unicode (Ranges)

/-- A set with the capital and the small form of all its ASCII letters. -/
def foldAsciiCase (ranges : Ranges) : Ranges :=
  ranges.union
    ((Ranges.inter ranges [(65, 90)]).map (fun r => (r.1 + 32, r.2 + 32)) ++
      (Ranges.inter ranges [(97, 122)]).map (fun r => (r.1 - 32, r.2 - 32)))

namespace Modes

/-- A set with all letters that fit in its place. -/
def fold (m : Modes) (ranges : Ranges) : Ranges :=
  if !m.ignoreCase then ranges else if m.unicode then ranges.foldCase else foldAsciiCase ranges

/-- The characters outside a set; among the bytes outside a set are always some that are only parts
of characters. -/
def complement (m : Modes) (ranges : Ranges) : Except PatternFault Ranges :=
  if m.unicode then .ok ranges.complement else .error .splitsCharacters

/-- A set or, if it is negated, what is outside it. Case is looked at first. -/
def close (m : Modes) (negated : Bool) (ranges : Ranges) : Except PatternFault Ranges :=
  if negated then m.complement (m.fold ranges) else .ok (m.fold ranges)

/-- The character that is meant by a literal in an expression. -/
def charOf (m : Modes) (l : Literal) : Except PatternFault Char :=
  if !m.unicode && l.isByte && 128 ≤ l.char.toNat then .error .splitsCharacters else .ok l.char

/-- The code point that is meant by a literal in a set. -/
def codeOf (m : Modes) (l : Literal) : Except PatternFault Nat := do
  let c ← m.charOf l
  if !m.unicode && 128 ≤ c.toNat then throw .unicodeDisabled
  return c.toNat

/-- The members of a set with a name. The blanks, digits and words have no case to look at. -/
def namedMembers (m : Modes) (negated : Bool) : NamedSet → Except PatternFault Ranges
  | .digit => choose Unicode.decimalDigits CharSet.asciiDigits
  | .blank => choose Unicode.whiteSpace CharSet.asciiBlanks
  | .word => choose Unicode.wordCharacters CharSet.asciiWord
  | .property query =>
    if !m.unicode then .error .unicodeDisabled
    else
      match query.answer with
      | .ok ranges => m.close negated ranges
      | .error .unknownProperty => .error .unknownProperty
      | .error .unknownValue => .error .unknownPropertyValue
where
  /-- The set or, if it is negated, what is outside it. -/
  choose (characters bytes : Ranges) : Except PatternFault Ranges :=
    let ranges := if m.unicode then characters else bytes
    if negated then m.complement ranges else .ok ranges

end Modes

namespace SetOperation

/-- The result of an operation. -/
def apply : SetOperation → Ranges → Ranges → Ranges
  | intersection => Ranges.inter
  | difference => Ranges.diff
  | symmetricDifference => Ranges.symmDiff

end SetOperation

namespace CharSet

mutual

/-- The members of a set, in normal form. -/
def members (m : Modes) : CharSet → Except PatternFault Ranges
  | nothing => .ok []
  | char c => do
    let n ← m.codeOf c
    return [(n, n)]
  | range first last => do return [(← m.codeOf first, ← m.codeOf last)]
  | ascii ranges negated => m.close negated ranges
  | named s negated => m.namedMembers negated s
  | bracketed negated s => do m.close negated (← s.members m)
  | union sets => do return .normal (← membersOfAll m sets)
  | binary op a b => do
    let left ← a.members m
    let right ← b.members m
    return op.apply (m.fold left) (m.fold right)

/-- The members of several sets. -/
def membersOfAll (m : Modes) : List CharSet → Except PatternFault Ranges
  | [] => .ok []
  | s :: rest => do return (← s.members m) ++ (← membersOfAll m rest)

end

end CharSet

end Listing.Pattern
