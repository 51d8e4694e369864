/-!
# Patterns

A pattern is a list of segments: texts that stand for themselves, runs of any characters, and
pieces of an expression that are passed on as they are. `ofLike` and `ofContains` read the two
notations of a query string; `posix` and `lucene` write a pattern for the two stores.

* In the *like* notation everything is part of an expression, but an asterisk that neither a point
  nor a backslash precedes is a run of any characters.
* In the *contains* notation everything stands for itself, but an asterisk is a run of any
  characters unless a backslash precedes it.

The relational store searches, so its expressions are anchored; the search index matches whole
texts anyway.
-/

namespace Listing

/-- A piece of a pattern. -/
inductive Segment where
  /-- Any run of characters, including none. -/
  | anyRun
  /-- A text that stands for itself. -/
  | literal (text : List Char)
  /-- A piece of an expression. -/
  | raw (text : List Char)
deriving DecidableEq, Repr

/-- A pattern that texts are fitted to as a whole. -/
abbrev Pattern := List Segment

namespace Pattern

/-! ### Reading -/

/-- The segment of the characters read since the last one, last character first; none if there are
no such characters. -/
def flush (segment : List Char → Segment) (pending : List Char) : Pattern :=
  if pending.isEmpty then [] else [segment pending.reverse]

/-- The segments of the rest of a *like* value, where `before` is the character in front of it. -/
def likeFrom (pending : List Char) (before : Option Char) : List Char → Pattern
  | [] => flush .raw pending
  | c :: cs =>
    if c = '*' ∧ before ≠ some '.' ∧ before ≠ some '\\' then
      flush .raw pending ++ .anyRun :: likeFrom [] (some c) cs
    else likeFrom (c :: pending) (some c) cs

/-- The pattern of a *like* value. -/
def ofLike (value : List Char) : Pattern := likeFrom [] none value

/-- The segments of the rest of a *contains* value. -/
def containsFrom (pending : List Char) : List Char → Pattern
  | [] => flush .literal pending
  | '\\' :: '*' :: cs => containsFrom ('*' :: pending) cs
  | '*' :: cs => flush .literal pending ++ .anyRun :: containsFrom [] cs
  | c :: cs => containsFrom (c :: pending) cs

/-- The pattern of a *contains* value. -/
def ofContains (value : List Char) : Pattern := containsFrom [] value

/-! ### Writing -/

/-- The characters with a meaning in expressions of the relational store. -/
def posixReserved : List Char :=
  ['\\', '.', '+', '*', '?', '(', ')', '|', '[', ']', '\x7b', '\x7d', '^', '$', '#', '&', '-', '~']

/-- The characters with a meaning in expressions of the search index. -/
def luceneReserved : List Char :=
  ['.', '?', '+', '*', '|', '\x7b', '\x7d', '[', ']', '(', ')', '"', '\\', '#', '@', '&', '<', '>',
    '~']

/-- A text with a backslash in front of each reserved character. -/
def escape (reserved text : List Char) : List Char :=
  text.flatMap fun c => if c ∈ reserved then ['\\', c] else [c]

/-- A segment as a piece of an expression. -/
def Segment.write (reserved : List Char) : Segment → List Char
  | .anyRun => ['.', '*']
  | .literal text => escape reserved text
  | .raw text => text

/-- The expression of a pattern without anchors. -/
def body (reserved : List Char) (p : Pattern) : List Char := p.flatMap (Segment.write reserved)

/-- The expression of a pattern for the relational store. -/
def posix (p : Pattern) : List Char := '^' :: body posixReserved p ++ ['$']

/-- The expression of a pattern for the search index. -/
def lucene (p : Pattern) : List Char := body luceneReserved p

/-- A text as an expression of the search index that only fits this text. -/
def escapeLucene (text : List Char) : List Char := escape luceneReserved text

end Pattern

end Listing
