/-!
# Faults of patterns

The causes for which a pattern is refused. Some constructs are refused although they are well
formed, because only one of the two stores knows them.
-/

namespace Listing

/-- A cause for which a pattern is refused. -/
inductive PatternFault where
  /-- A backslash precedes a letter or digit. -/
  | unsupportedEscape (c : Char)
  /-- A group starts with a question mark. -/
  | unsupportedGroup
  /-- A group is not closed. -/
  | unclosedGroup
  /-- A group is closed that was not opened. -/
  | unopenedGroup
  /-- The brackets of a set are not closed. -/
  | unclosedSet
  /-- A range of a set is empty. -/
  | emptyRange
  /-- The end of a range is no character. -/
  | rangeOfNonCharacters
  /-- A set contains a position. -/
  | positionInSet
  /-- There is nothing to repeat. -/
  | nothingToRepeat
  /-- A count of repetitions is no number. -/
  | countExpected
  /-- The braces of a repetition are not closed. -/
  | unclosedRepetition
  /-- The least count of a repetition is above the largest. -/
  | emptyRepetition
  /-- A count of repetitions is too large. -/
  | countTooLarge
  /-- A backslash precedes a character without a meaning behind it. -/
  | unknownEscape
  /-- The expression ends after a backslash. -/
  | unfinishedEscape
  /-- The expression refers to an earlier group. -/
  | backReference
  /-- The expression looks around. -/
  | lookAround
  /-- A code point has no digits. -/
  | emptyCodePoint
  /-- A code point has a character that is no digit. -/
  | badCodePointDigit
  /-- A code point is no character. -/
  | badCodePoint
  /-- The name of a group is not closed. -/
  | unclosedGroupName
  /-- A group has a name with a character that names do not have. -/
  | badGroupName
  /-- The name of a group is empty. -/
  | emptyGroupName
  /-- Two groups have the same name. -/
  | repeatedGroupName
  /-- A flag is unknown. -/
  | unknownFlag
  /-- A flag is given twice. -/
  | repeatedFlag
  /-- Flags are negated twice. -/
  | repeatedFlagNegation
  /-- No flag follows a negation. -/
  | danglingFlagNegation
  /-- The expression ends among flags. -/
  | unfinishedFlags
  /-- The braces behind a word boundary are not closed. -/
  | unclosedBoundary
  /-- A word boundary is unknown. -/
  | unknownBoundary
  /-- The expression ends after the brace behind a word boundary. -/
  | unfinishedBoundary
  /-- The name of a property is a backslash. -/
  | badProperty
  /-- A property is unknown. -/
  | unknownProperty
  /-- A value of a property is unknown. -/
  | unknownPropertyValue
  /-- A character beyond ASCII or a property is used where characters are bytes. -/
  | unicodeDisabled
  /-- A byte would fit that is only a part of a character. -/
  | splitsCharacters
  /-- Groups, sets and repetitions are nested too deep. -/
  | tooDeep
  /-- The automaton of the expression is too large. -/
  | tooLarge
deriving DecidableEq, Repr

/-- The deepest nesting of an expression. -/
def PatternFault.depthLimit : Nat := 250

/-- The largest automaton of an expression, in bytes. -/
def PatternFault.sizeLimit : Nat := 10485760

/-- The cause in words. -/
def PatternFault.cause : PatternFault → String
  | unsupportedEscape c => "escape '\\" ++ String.singleton c ++ "' is not supported"
  | unsupportedGroup => "'(?' groups are not supported"
  | unclosedGroup => "unclosed group"
  | unopenedGroup => "unopened group"
  | unclosedSet => "unclosed character class"
  | emptyRange => "invalid character class range, the start must be <= the end"
  | rangeOfNonCharacters => "invalid range boundary, must be a literal"
  | positionInSet => "invalid escape sequence found in character class"
  | nothingToRepeat => "repetition operator missing expression"
  | countExpected => "repetition quantifier expects a valid decimal"
  | unclosedRepetition => "unclosed counted repetition"
  | emptyRepetition => "invalid repetition count range, the start must be <= the end"
  | countTooLarge => "decimal literal invalid"
  | unknownEscape => "unrecognized escape sequence"
  | unfinishedEscape => "incomplete escape sequence, reached end of pattern prematurely"
  | backReference => "backreferences are not supported"
  | lookAround => "look-around, including look-ahead and look-behind, is not supported"
  | emptyCodePoint => "hexadecimal literal empty"
  | badCodePointDigit => "invalid hexadecimal digit"
  | badCodePoint => "hexadecimal literal is not a Unicode scalar value"
  | unclosedGroupName => "unclosed capture group name"
  | badGroupName => "invalid capture group character"
  | emptyGroupName => "empty capture group name"
  | repeatedGroupName => "duplicate capture group name"
  | unknownFlag => "unrecognized flag"
  | repeatedFlag => "duplicate flag"
  | repeatedFlagNegation => "flag negation operator repeated"
  | danglingFlagNegation => "dangling flag negation operator"
  | unfinishedFlags => "expected flag but got end of regex"
  | unclosedBoundary =>
    "special word boundary assertion is either unclosed or contains an invalid character"
  | unknownBoundary =>
    "unrecognized special word boundary assertion, valid choices are: start, end, start-half or " ++
      "end-half"
  | unfinishedBoundary =>
    "found either the beginning of a special word boundary or a bounded repetition on a \\b " ++
      "with an opening brace, but no closing brace"
  | badProperty => "invalid Unicode character class"
  | unknownProperty => "Unicode property not found"
  | unknownPropertyValue => "Unicode property value not found"
  | unicodeDisabled => "Unicode not allowed here"
  | splitsCharacters => "pattern can match invalid UTF-8"
  | tooDeep =>
    "exceed the maximum number of nested parentheses/brackets (" ++ toString depthLimit ++ ")"
  | tooLarge => "Compiled regex exceeds size limit of " ++ toString sizeLimit ++ " bytes."

/-- The text of a fault. -/
def PatternFault.message (f : PatternFault) : String := "invalid pattern: " ++ f.cause

end Listing
