import Listing.Pattern.CharSet
import Listing.Pattern.Modes

/-!
# Expressions

An expression as a tree that keeps to the way it is written, and the depth of its nesting.
-/

namespace Listing.Pattern

/-- A test of the characters on both sides of a position. -/
inductive WordPosition where
  /-- The start or the end of a word. -/
  | edge
  /-- Anything but the edge of a word. -/
  | noEdge
  /-- The start of a word. -/
  | start
  /-- The end of a word. -/
  | finish
  /-- No word precedes. -/
  | startHalf
  /-- No word follows. -/
  | finishHalf
deriving DecidableEq, Repr

/-- A test of a position that takes no character. -/
inductive Position where
  /-- The start of the text, or of a line. -/
  | lineStart
  /-- The end of the text, or of a line. -/
  | lineFinish
  /-- The start of the text. -/
  | start
  /-- The end of the text. -/
  | finish
  /-- A place in or beside a word. -/
  | word (p : WordPosition)
deriving DecidableEq, Repr

/-- What the parentheses around an expression do. -/
inductive GroupKind where
  /-- They remember what they fit; groups are counted from one. -/
  | capture (index : Nat)
  /-- They only change modes. -/
  | plain (changes : FlagChanges)
deriving DecidableEq, Repr

/-- The changes of modes inside a group. -/
def GroupKind.changes : GroupKind → FlagChanges
  | capture _ => []
  | plain changes => changes

/-- An expression. -/
inductive Expression where
  /-- The empty text. -/
  | empty
  /-- One character. -/
  | char (c : Literal)
  /-- Any character, but in most modes a line feed. -/
  | anyChar
  /-- A position. -/
  | position (p : Position)
  /-- A character of a set. -/
  | set (s : CharSet)
  /-- An expression several times: at least `least` times and, if there is a bound, at most `most`
  times. -/
  | repetition (least : Nat) (most : Option Nat) (reluctant : Bool) (e : Expression)
  /-- An expression in parentheses. -/
  | group (kind : GroupKind) (e : Expression)
  /-- A change of modes for what follows. -/
  | flags (changes : FlagChanges)
  /-- Expressions one after the other. -/
  | concat (es : List Expression)
  /-- One of several expressions. -/
  | alternation (es : List Expression)
deriving Repr, Inhabited

namespace Expression

/-- Expressions one after the other; one or none need no list. -/
def ofItems : List Expression → Expression
  | [] => empty
  | [e] => e
  | es => concat es

/-- Whether there is something that could be repeated. -/
def isRepeatable : Expression → Bool
  | empty | flags _ => false
  | _ => true

mutual

/-- The depth of groups, sets, repetitions and lists. -/
def depth : Expression → Nat
  | set s => s.depth
  | repetition _ _ _ e => e.depth + 1
  | group _ e => e.depth + 1
  | concat es => depthOfAll es + 1
  | alternation es => depthOfAll es + 1
  | _ => 0

/-- The largest depth of several expressions. -/
def depthOfAll : List Expression → Nat
  | [] => 0
  | e :: rest => max e.depth (depthOfAll rest)

end

end Expression

end Listing.Pattern
