import Listing.Pattern.Comment
import Listing.Pattern.Expression
import Listing.Pattern.Fault

/-!
# Reading escapes and sets

The parts of an expression that start with a backslash or stand in brackets. Each function reads
from the character behind the one that announced it and gives back what follows. `verbose` says
whether blanks and comments may stand in between.
-/

namespace Listing.Pattern

/-- The steps of reading an expression: what was found and the text behind it, or a fault. -/
abbrev Reading := Except PatternFault

/-! ### Escapes -/

/-- What a backslash and the characters behind it stand for. -/
inductive Escape where
  /-- A character. -/
  | char (c : Literal)
  /-- A position. -/
  | position (p : Position)
  /-- A set. -/
  | set (s : CharSet)

/-- A character that is written as itself. -/
def Literal.plain (c : Char) : Literal := ⟨c, false⟩

/-- A character as an escape. -/
def Escape.plain (c : Char) : Escape := .char (.plain c)

/-- The characters that a backslash deprives of their meaning. -/
def metaCharacters : List Char :=
  ['\\', '.', '+', '*', '?', '(', ')', '|', '[', ']', '\x7b', '\x7d', '^', '$', '#', '&', '-', '~']

/-- The characters that stand for themselves behind a backslash: those with a meaning of their own
and all other ASCII characters but letters, digits and the angle brackets. -/
def isPlainEscape (c : Char) : Bool :=
  c ∈ metaCharacters || (c.toNat < 128 && !c.isAlphanum && c ≠ '<' && c ≠ '>')

/-- The value of a hexadecimal digit. -/
def hexDigit? (c : Char) : Option Nat :=
  if c.isDigit then some (c.toNat - 48)
  else if 'a' ≤ c && c ≤ 'f' then some (c.toNat - 87)
  else if 'A' ≤ c && c ≤ 'F' then some (c.toNat - 55)
  else none

/-- The character with a code point. -/
def characterOf (code : Nat) (isByte : Bool) (rest : List Char) : Reading (Escape × List Char) :=
  if h : code.isValidChar then .ok (.char ⟨Char.ofNatAux code h, isByte⟩, rest)
  else .error .badCodePoint

/-- A code point of a fixed number of digits. -/
def fixedCodePoint (verbose isByte : Bool) (code : Nat) :
    Nat → List Char → Reading (Escape × List Char)
  | 0, rest => characterOf code isByte rest
  | _ + 1, [] => .error .unfinishedEscape
  | digits + 1, c :: rest =>
    match hexDigit? c with
    | none => .error .badCodePointDigit
    | some d => fixedCodePoint verbose isByte (code * 16 + d) digits (skip verbose rest)

/-- A code point in braces. -/
def bracedCodePoint (verbose : Bool) (cs : List Char) : Reading (Escape × List Char) :=
  let (digits, rest) := run verbose (· ≠ '\x7d') (skip verbose cs)
  if digits.any fun c => (hexDigit? c).isNone then .error .badCodePointDigit
  else if rest.isEmpty then .error .unfinishedEscape
  else if digits.isEmpty then .error .emptyCodePoint
  else
    characterOf (digits.foldl (fun n c => n * 16 + (hexDigit? c).getD 0) 0) false
      (skip verbose rest.tail)

/-- A code point after the letter that announces it. Two digits may be meant as a byte. -/
def codePoint (verbose : Bool) (digits : Nat) (cs : List Char) : Reading (Escape × List Char) :=
  match skip verbose cs with
  | [] => .error .unfinishedEscape
  | '\x7b' :: rest => bracedCodePoint verbose rest
  | c :: rest => fixedCodePoint verbose (digits == 2) 0 digits (c :: rest)

/-- What is in front of a mark and behind it, if the mark is there. -/
def cutAt? (mark : List Char) : List Char → Option (List Char × List Char)
  | [] => none
  | c :: cs =>
    if mark.isPrefixOf (c :: cs) then some ([], (c :: cs).drop mark.length)
    else (cutAt? mark cs).map fun (before, behind) => (c :: before, behind)

/-- The set that a property in braces stands for: a name, or a name and a value. -/
def propertySet (negated : Bool) (cs : List Char) : CharSet :=
  let withValue (negated : Bool) : List Char × List Char → CharSet
    | (name, value) => .named (.property ⟨.ofList name, some (.ofList value)⟩) negated
  match cutAt? ['!', '='] cs with
  | some found => withValue (!negated) found
  | none =>
    match (cutAt? [':'] cs).orElse fun _ => cutAt? ['='] cs with
    | some found => withValue negated found
    | none => .named (.property ⟨.ofList cs, none⟩) negated

/-- A property after the letter that announces it. -/
def property (verbose negated : Bool) (cs : List Char) : Reading (Escape × List Char) :=
  match skip verbose cs with
  | [] => .error .unfinishedEscape
  | '\x7b' :: rest =>
    let (text, rest) := run verbose (· ≠ '\x7d') (skip verbose rest)
    if rest.isEmpty then .error .unfinishedEscape
    else .ok (.set (propertySet negated text), rest.tail)
  | '\\' :: _ => .error .badProperty
  | c :: rest => .ok (.set (.named (.property ⟨.singleton c, none⟩) negated), skip verbose rest)

/-- Whether the character may stand in the name of a word boundary. -/
def isBoundaryLetter (c : Char) : Bool := c.isAlpha || c = '-'

/-- The word boundaries with names. -/
def boundaryNames : List (String × WordPosition) :=
  [("start", .start), ("end", .finish), ("start-half", .startHalf), ("end-half", .finishHalf)]

/-- The name in braces that may follow a word boundary; if what follows the brace cannot be a name,
the brace is left to a repetition. -/
def boundary (verbose : Bool) : List Char → Reading (Escape × List Char)
  | '\x7b' :: rest =>
    let (name, behind) := run verbose isBoundaryLetter (skip verbose rest)
    if (skip verbose rest).isEmpty then .error .unfinishedBoundary
    else if name.isEmpty then .ok (.position (.word .edge), '\x7b' :: rest)
    else
      match behind with
      | '\x7d' :: tail =>
        match boundaryNames.lookup (String.ofList name) with
        | some p => .ok (.position (.word p), tail)
        | none => .error .unknownBoundary
      | _ => .error .unclosedBoundary
  | rest => .ok (.position (.word .edge), rest)

/-- What stands behind a backslash. -/
def escape? (verbose : Bool) : List Char → Reading (Escape × List Char)
  | [] => .error .unfinishedEscape
  | c :: rest =>
    if c.isDigit then .error .backReference
    else if c = 'x' then codePoint verbose 2 rest
    else if c = 'u' then codePoint verbose 4 rest
    else if c = 'U' then codePoint verbose 8 rest
    else if c = 'p' || c = 'P' then property verbose (c == 'P') rest
    else if c = 'd' || c = 'D' then .ok (.set (.named .digit (c == 'D')), rest)
    else if c = 's' || c = 'S' then .ok (.set (.named .blank (c == 'S')), rest)
    else if c = 'w' || c = 'W' then .ok (.set (.named .word (c == 'W')), rest)
    else if isPlainEscape c then .ok (.plain c, rest)
    else if c = 'a' then .ok (.plain (Char.ofNat 7), rest)
    else if c = 'f' then .ok (.plain (Char.ofNat 12), rest)
    else if c = 't' then .ok (.plain '\t', rest)
    else if c = 'n' then .ok (.plain '\n', rest)
    else if c = 'r' then .ok (.plain '\r', rest)
    else if c = 'v' then .ok (.plain (Char.ofNat 11), rest)
    else if c = 'A' then .ok (.position .start, rest)
    else if c = 'z' then .ok (.position .finish, rest)
    else if c = 'b' then boundary verbose rest
    else if c = 'B' then .ok (.position (.word .noEdge), rest)
    else if c = '<' then .ok (.position (.word .start), rest)
    else if c = '>' then .ok (.position (.word .finish), rest)
    else .error .unknownEscape

/-! ### Sets -/

/-- A set whose brackets are still open: whether it is negated, the items read since the last
operation, last one first, and the operation with what stands in front of it. -/
structure OpenSet where
  /-- Whether the set holds the characters outside. -/
  negated : Bool
  /-- The items since the last operation, last one first. -/
  items : List CharSet
  /-- What stands in front of the last operation. -/
  pending : Option (SetOperation × CharSet)

namespace OpenSet

/-- The set with one more item. -/
def push (o : OpenSet) (s : CharSet) : OpenSet := { o with items := s :: o.items }

/-- All that has been read. -/
def whole (o : OpenSet) : CharSet :=
  let items := CharSet.ofItems o.items.reverse
  match o.pending with
  | none => items
  | some (op, before) => .binary op before items

/-- The set after an operation. -/
def operate (o : OpenSet) (op : SetOperation) : OpenSet :=
  ⟨o.negated, [], some (op, o.whole)⟩

/-- The set with its brackets closed. -/
def close (o : OpenSet) : CharSet := .bracketed o.negated o.whole

end OpenSet

/-- The start of a set behind its bracket: a circumflex that negates it, minus signs that stand for
themselves, or a closing bracket that does. -/
def openSet (verbose : Bool) (cs : List Char) : Reading (OpenSet × List Char) :=
  let start := skip verbose cs
  let (negated, body) :=
    match start with
    | '^' :: rest => (true, skip verbose rest)
    | _ => (false, start)
  let (signs, rest) := run verbose (· = '-') body
  match rest with
  | [] => .error .unclosedSet
  | c :: tail =>
    if c = ']' && signs.isEmpty then
      match skip verbose tail with
      | [] => .error .unclosedSet
      | rest => .ok (⟨negated, [.char (.plain ']')], none⟩, rest)
    else .ok (⟨negated, signs.map fun c => .char (.plain c), none⟩, rest)

/-- A named set of ASCII characters behind its bracket, such as `:alpha:]`. -/
def asciiSet? : List Char → Option (CharSet × List Char)
  | ':' :: rest =>
    let (negated, body) :=
      match rest with
      | '^' :: more => (true, more)
      | _ => (false, rest)
    match body.dropWhile (· ≠ ':') with
    | ':' :: ']' :: tail =>
      (CharSet.asciiNamed.lookup (String.ofList (body.takeWhile (· ≠ ':')))).map fun ranges =>
        (.ascii ranges negated, tail)
    | _ => none
  | _ => none

/-- One end of a range, or an item of a set. -/
def setItem (verbose : Bool) : List Char → Reading (Escape × List Char)
  | [] => .error .unclosedSet
  | '\\' :: rest => escape? verbose rest
  | c :: rest => .ok (.plain c, rest)

/-- An item as a set. -/
def Escape.toSet : Escape → Except PatternFault CharSet
  | char c => .ok (.char c)
  | set s => .ok s
  | position _ => .error .positionInSet

/-- An item as the end of a range. -/
def Escape.toLiteral : Escape → Except PatternFault Literal
  | char c => .ok c
  | _ => .error .rangeOfNonCharacters

/-- An item of a set or a range. A minus sign makes a range unless it stands in front of a closing
bracket or of another minus sign. -/
def setRange (verbose : Bool) (cs : List Char) : Reading (CharSet × List Char) := do
  let (first, rest) ← setItem verbose cs
  match skip verbose rest with
  | [] => .error .unclosedSet
  | '-' :: tail =>
    if peek verbose tail = some ']' || peek verbose tail = some '-' then
      return (← first.toSet, '-' :: tail)
    else
      match skip verbose tail with
      | [] => .error .unclosedSet
      | tail =>
        let (last, tail) ← setItem verbose tail
        let low ← first.toLiteral
        let high ← last.toLiteral
        if high.char < low.char then .error .emptyRange else return (.range low high, tail)
  | rest => return (← first.toSet, rest)

/-- The rest of a set, where `outer` are the sets around it. Every step takes at least one
character, so a unit of `fuel` for each is enough. -/
def setFrom (verbose : Bool) (outer : List OpenSet) (o : OpenSet) :
    Nat → List Char → Reading (CharSet × List Char)
  | 0, _ => .error .unclosedSet
  | fuel + 1, cs =>
    match skip verbose cs with
    | [] => .error .unclosedSet
    | '[' :: rest =>
      match asciiSet? rest with
      | some (s, tail) => setFrom verbose outer (o.push s) fuel tail
      | none =>
        match openSet verbose rest with
        | .ok (inner, tail) => setFrom verbose (o :: outer) inner fuel tail
        | .error fault => .error fault
    | ']' :: rest =>
      match outer with
      | [] => .ok (o.close, rest)
      | around :: outer => setFrom verbose outer (around.push o.close) fuel rest
    | '&' :: '&' :: rest => setFrom verbose outer (o.operate .intersection) fuel rest
    | '-' :: '-' :: rest => setFrom verbose outer (o.operate .difference) fuel rest
    | '~' :: '~' :: rest => setFrom verbose outer (o.operate .symmetricDifference) fuel rest
    | c :: rest =>
      match setRange verbose (c :: rest) with
      | .ok (s, tail) => setFrom verbose outer (o.push s) fuel tail
      | .error fault => .error fault

/-- A set behind its bracket. -/
def set? (verbose : Bool) (cs : List Char) : Reading (CharSet × List Char) :=
  match openSet verbose cs with
  | .ok (o, rest) => setFrom verbose [] o rest.length.succ rest
  | .error fault => .error fault

end Listing.Pattern
