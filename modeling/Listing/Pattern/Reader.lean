import Listing.Pattern.SetReader

/-!
# Reading expressions

`Expression.read` reads the text of an expression or says why it is none. The reader holds one
`Level` for each open group. Faults are found from left to right; nesting that is too deep is only
looked at when the whole text has been read.
-/

namespace Listing.Pattern

/-! ### Repetitions -/

/-- The digits of a count and what follows the blanks around them. -/
def countText (verbose : Bool) (cs : List Char) : List Char × List Char :=
  let (digits, rest) := run verbose Char.isDigit (Text.trimStart cs)
  (digits, Text.trimStart rest)

/-- The value of a count, which has 32 bits. -/
def countValue (digits : List Char) : Except PatternFault Nat :=
  if digits.isEmpty then .error .countExpected
  else
    let n := digits.foldl (fun n c => n * 10 + (c.toNat - 48)) 0
    if n < Nat.pow 2 32 then .ok n else .error .countTooLarge

/-- The closing brace of a repetition. -/
def closeCounts (least : Nat) (most : Option Nat) :
    List Char → Reading ((Nat × Option Nat) × List Char)
  | '\x7d' :: rest => .ok ((least, most), rest)
  | _ => .error .unclosedRepetition

/-- The counts of a repetition behind its opening brace. -/
def counts (verbose : Bool) (cs : List Char) : Reading ((Nat × Option Nat) × List Char) :=
  if (skip verbose cs).isEmpty then .error .unclosedRepetition
  else
    let (first, rest) := countText verbose (skip verbose cs)
    match rest with
    | [] => .error .unclosedRepetition
    | ',' :: tail =>
      match skip verbose tail with
      | [] => .error .unclosedRepetition
      | '\x7d' :: tail => do closeCounts (← countValue first) none ('\x7d' :: tail)
      | tail => do
        let least ← countValue first
        let (second, rest) := countText verbose tail
        let most ← countValue second
        closeCounts least (some most) rest
    | _ => do
      let n ← countValue first
      closeCounts n (some n) rest

/-- Whether a question mark follows a repetition, which makes it reluctant, and what is behind. -/
def reluctance : List Char → Bool × List Char
  | '?' :: rest => (true, rest)
  | rest => (false, rest)

/-! ### Groups -/

/-- How a group starts. -/
inductive GroupStart where
  /-- A group that remembers what it fits follows. -/
  | capture (name : Option (List Char))
  /-- A group that only changes modes follows. -/
  | plain (changes : FlagChanges)
  /-- There is no group, only flags. -/
  | flags (changes : FlagChanges)

/-- Whether the character may stand in the name of a group, and whether it may be its first. -/
def isNameChar (first : Bool) (c : Char) : Bool :=
  if c.toNat < 128 then
    c = '_' || (if first then c.isAlpha else c.isAlphanum || c ∈ ['.', '[', ']'])
  else
    Unicode.alphabetic.contains c.toNat || (!first && Unicode.numeric.contains c.toNat)

/-- The name of a group behind its opening angle bracket. -/
def groupName (names : List (List Char)) (cs : List Char) : Reading (GroupStart × List Char) :=
  let name := cs.takeWhile (· ≠ '>')
  let valid :=
    match name with
    | [] => true
    | c :: rest => isNameChar true c && rest.all (isNameChar false)
  if cs.isEmpty then .error .unclosedGroupName
  else if !valid then .error .badGroupName
  else
    match cs.dropWhile (· ≠ '>') with
    | [] => .error .unclosedGroupName
    | _ :: rest =>
      if name.isEmpty then .error .emptyGroupName
      else if name ∈ names then .error .repeatedGroupName
      else .ok (.capture (some name), rest)

/-- The flags by their letters. -/
def flagLetters : List (Char × Flag) :=
  [('i', .ignoreCase), ('m', .multiLine), ('s', .dotAll), ('U', .swapGreed), ('u', .unicode),
    ('R', .carriageReturn), ('x', .verbose)]

/-- What letters of flags do: those behind a minus sign switch a mode off. -/
def changesOf (on : Bool) : List Char → FlagChanges
  | [] => []
  | c :: rest =>
    match flagLetters.lookup c with
    | some flag => (flag, on) :: changesOf on rest
    | none => changesOf false rest

/-- The flags behind a question mark, up to a colon or a closing parenthesis. -/
def flagsFrom (seen : List Char) : List Char → Reading (GroupStart × List Char)
  | [] => .error .unfinishedFlags
  | ')' :: rest =>
    if seen.isEmpty then .error .nothingToRepeat
    else if seen.head? = some '-' then .error .danglingFlagNegation
    else .ok (.flags (changesOf true seen.reverse), rest)
  | ':' :: rest =>
    if seen.head? = some '-' then .error .danglingFlagNegation
    else .ok (.plain (changesOf true seen.reverse), rest)
  | c :: rest =>
    if c = '-' && '-' ∈ seen then .error .repeatedFlagNegation
    else if c ∈ seen then .error .repeatedFlag
    else if c = '-' || (flagLetters.lookup c).isSome then flagsFrom (c :: seen) rest
    else .error .unknownFlag

/-- The start of a group behind its parenthesis and the blanks that may follow it. -/
def groupStart (names : List (List Char)) : List Char → Reading (GroupStart × List Char)
  | '?' :: rest =>
    match rest with
    | [] => .error .unclosedGroup
    | '=' :: _ => .error .lookAround
    | '!' :: _ => .error .lookAround
    | '<' :: '=' :: _ => .error .lookAround
    | '<' :: '!' :: _ => .error .lookAround
    | 'P' :: '<' :: more => groupName names more
    | '<' :: more => groupName names more
    | _ => flagsFrom [] rest
  | rest => .ok (.capture none, rest)

/-! ### Expressions -/

/-- A group that is still open: the alternatives before the last bar and the items behind it, both
last one first. -/
structure Level where
  /-- What the group does. -/
  kind : GroupKind
  /-- Whether blanks and comments may stand behind the group. -/
  verboseBehind : Bool
  /-- The alternatives that are complete. -/
  alternatives : List Expression
  /-- The items of the last alternative. -/
  items : List Expression

namespace Level

/-- A level of which nothing has been read. -/
def fresh (kind : GroupKind) (verboseBehind : Bool) : Level := ⟨kind, verboseBehind, [], []⟩

/-- The level with one more item. -/
def push (l : Level) (e : Expression) : Level := { l with items := e :: l.items }

/-- The level after a bar. -/
def bar (l : Level) : Level :=
  { l with alternatives := .ofItems l.items.reverse :: l.alternatives, items := [] }

/-- All that has been read. -/
def close (l : Level) : Expression :=
  match l.alternatives with
  | [] => .ofItems l.items.reverse
  | _ => .alternation l.bar.alternatives.reverse

/-- The last item, if it can be repeated, and the level without it. -/
def takeLast (l : Level) : Except PatternFault (Expression × Level) :=
  match l.items with
  | e :: items => if e.isRepeatable then .ok (e, { l with items }) else .error .nothingToRepeat
  | [] => .error .nothingToRepeat

end Level

/-- What a backslash stands for as an expression. -/
def Escape.toExpression : Escape → Expression
  | char c => .char c
  | position p => .position p
  | set s => .set s

/-- What has been read of an expression. -/
structure Progress where
  /-- The innermost open group, or the expression itself. -/
  level : Level
  /-- The groups around it. -/
  outer : List Level
  /-- The names of groups so far. -/
  names : List (List Char)
  /-- The number of groups so far that remember what they fit. -/
  captures : Nat
  /-- Whether blanks and comments may stand between the parts. -/
  verbose : Bool

namespace Progress

/-- Nothing has been read. -/
def start : Progress := ⟨.fresh (.plain []) false, [], [], 0, false⟩

/-- One more item. -/
def push (p : Progress) (e : Expression) : Progress := { p with level := p.level.push e }

/-- One more group that is open. -/
def enter (p : Progress) (kind : GroupKind) : Progress :=
  { p with
    level := .fresh kind p.verbose
    outer := p.level :: p.outer
    verbose := kind.changes.verbose p.verbose }

/-- The innermost group is closed. -/
def leave (p : Progress) : Except PatternFault Progress :=
  match p.outer with
  | [] => .error .unopenedGroup
  | around :: outer =>
    .ok { p with
      level := around.push (.group p.level.kind p.level.close)
      outer
      verbose := p.level.verboseBehind }

/-- The last item is repeated. -/
def repetition (p : Progress) (least : Nat) (most : Option Nat) (reluctant : Bool) :
    Except PatternFault Progress := do
  let (e, level) ← p.level.takeLast
  return { p with level := level.push (.repetition least most reluctant e) }

/-- The start of a group behind its parenthesis. -/
def group (p : Progress) (cs : List Char) : Reading (Progress × List Char) := do
  match ← groupStart p.names (skip p.verbose cs) with
  | (.flags changes, rest) =>
    return ({ p.push (.flags changes) with verbose := changes.verbose p.verbose }, rest)
  | (.plain changes, rest) => return (p.enter (.plain changes), rest)
  | (.capture name, rest) =>
    let p := { p with captures := p.captures + 1, names := name.toList ++ p.names }
    return (p.enter (.capture p.captures), rest)

/-- A repetition with counts, behind its opening brace. -/
def counted (p : Progress) (cs : List Char) : Reading (Progress × List Char) := do
  let _ ← p.level.takeLast
  let ((least, most), rest) ← counts p.verbose cs
  if most.any (· < least) then throw .emptyRepetition
  let (reluctant, rest) := reluctance (skip p.verbose rest)
  return (← p.repetition least most reluctant, rest)

/-- A repetition without counts, behind its sign. -/
def uncounted (p : Progress) (least : Nat) (most : Option Nat) (cs : List Char) :
    Reading (Progress × List Char) := do
  let (reluctant, rest) := reluctance cs
  return (← p.repetition least most reluctant, rest)

/-- One step of reading: a character and what belongs to it. -/
def step (p : Progress) (c : Char) (rest : List Char) : Reading (Progress × List Char) :=
  match c with
  | '(' => p.group rest
  | ')' => do return (← p.leave, rest)
  | '|' => .ok ({ p with level := p.level.bar }, rest)
  | '[' => do
    let (s, rest) ← set? p.verbose rest
    return (p.push (.set s), rest)
  | '?' => p.uncounted 0 (some 1) rest
  | '*' => p.uncounted 0 none rest
  | '+' => p.uncounted 1 none rest
  | '\x7b' => p.counted rest
  | '\\' => do
    let (e, rest) ← escape? p.verbose rest
    return (p.push e.toExpression, rest)
  | '.' => .ok (p.push .anyChar, rest)
  | '^' => .ok (p.push (.position .lineStart), rest)
  | '$' => .ok (p.push (.position .lineFinish), rest)
  | c => .ok (p.push (.char (.plain c)), rest)

/-- The whole expression, when the text is at its end. -/
def finish (p : Progress) : Except PatternFault Expression :=
  if p.outer.isEmpty then .ok p.level.close else .error .unclosedGroup

/-- The rest of an expression. Every step takes at least one character, so a unit of `fuel` for each
is enough. -/
def readFrom (p : Progress) : Nat → List Char → Except PatternFault Expression
  | 0, _ => .error .tooDeep
  | fuel + 1, cs =>
    match skip p.verbose cs with
    | [] => p.finish
    | c :: rest =>
      match p.step c rest with
      | .ok (p, rest) => p.readFrom fuel rest
      | .error fault => .error fault

end Progress

/-- The expression of a text. -/
def Expression.read (cs : List Char) : Except PatternFault Expression := do
  let e ← Progress.start.readFrom cs.length.succ cs
  if PatternFault.depthLimit < e.depth then throw .tooDeep
  return e

end Listing.Pattern
