import Listing.Pattern.Members
import Listing.Pattern.Term

/-!
# Expressions as terms

`Expression.term` works out the modes of an expression. They change from left to right; what is
changed in a group is undone at its end. Faults are found in the same order.
-/

namespace Listing.Pattern

open Unicode (Ranges)

namespace Modes

/-- A character, with its other forms if case does not matter. -/
def charTerm (m : Modes) (l : Literal) : Except PatternFault Term := do
  let c ← m.charOf l
  return .ofRanges (!m.unicode) (m.fold [(c.toNat, c.toNat)])

/-- What the point fits. As a byte it could be a part of a character. -/
def pointTerm (m : Modes) : Except PatternFault Term :=
  if !m.unicode then .error .splitsCharacters
  else
    .ok (.oneOf false
      (if m.dotAll then [(0, Unicode.maxCodePoint)]
        else if m.carriageReturn then Ranges.complement [(10, 10), (13, 13)]
        else Ranges.complement [(10, 10)]))

/-- What a position fits. -/
def edge (m : Modes) : Position → Edge
  | .lineStart => if m.multiLine then .lineStart m.carriageReturn else .start
  | .lineFinish => if m.multiLine then .lineFinish m.carriageReturn else .finish
  | .start => .start
  | .finish => .finish
  | .word p => .word p m.unicode

end Modes

namespace Expression

mutual

/-- An expression as a term, and the modes in force behind it. -/
def termFrom (m : Modes) : Expression → Except PatternFault (Term × Modes)
  | empty => .ok (.empty, m)
  | char c => do return (← m.charTerm c, m)
  | anyChar => do return (← m.pointTerm, m)
  | position p => .ok (.edge (m.edge p), m)
  | set s => do return (.ofRanges (!m.unicode) (← s.members m), m)
  | repetition least most reluctant e => do
    let (t, m) ← e.termFrom m
    return (.repeated least most (reluctant != m.swapGreed) t, m)
  | group kind e => do
    let (t, _) ← e.termFrom (m.change kind.changes)
    match kind with
    | .capture index => return (.capture index t, m)
    | .plain _ => return (t, m)
  | flags changes => .ok (.empty, m.change changes)
  | concat es => do
    let (ts, m) ← termsFrom m es
    return (.sequence ts, m)
  | alternation es => do
    let (ts, m) ← termsFrom m es
    return (.choice ts, m)

/-- Several expressions as terms, and the modes in force behind them. -/
def termsFrom (m : Modes) : List Expression → Except PatternFault (List Term × Modes)
  | [] => .ok ([], m)
  | e :: rest => do
    let (t, m) ← e.termFrom m
    let (ts, m) ← termsFrom m rest
    return (t :: ts, m)

end

/-- An expression as a term. -/
def term (e : Expression) : Except PatternFault Term := do
  let (t, _) ← e.termFrom .initial
  return t

end Expression

end Listing.Pattern
