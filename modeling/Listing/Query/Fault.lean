/-!
# Requests that are refused

A `Failure` is one rejected part of a request with the text of the request that it comes from. A
request that asks for what cannot be had reports all of its failures, never the first one only.

A query string that is malformed is refused before any entity is looked at. `ParseFault` has the
causes, and `ParseError` is the report of one with the key in which it was found. The first cause
found is the only one reported.
-/

namespace Listing

/-! ### Failures -/

/-- One rejected part of a request. -/
structure Failure where
  /-- The text of the request that the part comes from; it may be empty. -/
  source : String
  /-- What is wrong with it. -/
  message : String
deriving DecidableEq, Repr

/-- The text of a failure. -/
def Failure.text (f : Failure) : String :=
  if f.source.isEmpty then f.message else f.source ++ ": " ++ f.message

/-- The texts of several failures in one line. -/
def Failure.join (failures : List Failure) : String := "; ".intercalate (failures.map (·.text))

/-! ### Malformed query strings -/

/-- A cause for which a query string is refused. -/
inductive ParseFault where
  /-- A pair has no equals sign. -/
  | noEquals
  /-- A percent encoded text is no text. -/
  | badEncoding
  /-- A key starts with a bracket, or a bracket is closed that was not opened. -/
  | malformedKey
  /-- Something stands between two brackets. -/
  | textBetweenBrackets
  /-- A bracket is not closed. -/
  | unbalancedBrackets
  /-- A bracket is opened inside brackets. -/
  | nestedBrackets
  /-- There is nothing inside brackets. -/
  | emptySegment
  /-- The free text has brackets. -/
  | bracketsOnFreeText
  /-- The filter does not say what it is about. -/
  | noDirective
  /-- The filter is about something unknown. -/
  | unknownDirective (name : String)
  /-- The parameter is unknown. -/
  | unknownParameter (name : String)
  /-- The operator is unknown. -/
  | unknownOperator (word : String)
  /-- A condition names no field. -/
  | noField
  /-- There are too many brackets. -/
  | tooManySegments
  /-- A part of a path is blank. -/
  | emptyPathSegment
  /-- The direction of an order is unknown. -/
  | unknownDirection (word : String)
  /-- A key of an order has too many words. -/
  | malformedOrder (entry : String)
  /-- An order has no key. -/
  | emptyOrder
  /-- A count is none. -/
  | notACount (text : String)
  /-- There is no value. -/
  | emptyValue
  /-- A position is no count. -/
  | notAPosition (text : String)
deriving DecidableEq, Repr

/-- The text of a cause. -/
def ParseFault.message : ParseFault → String
  | noEquals => "expected a key=value pair"
  | badEncoding => "invalid percent-encoding"
  | malformedKey => "malformed key"
  | textBetweenBrackets => "unexpected text between brackets"
  | unbalancedBrackets => "unbalanced brackets"
  | nestedBrackets => "nested brackets"
  | emptySegment => "empty bracket segment"
  | bracketsOnFreeText => "'query' takes no brackets"
  | noDirective => "missing filter directive"
  | unknownDirective name => "unknown filter directive '" ++ name ++ "'"
  | unknownParameter name => "unknown query parameter '" ++ name ++ "'"
  | unknownOperator word => "unknown operator '" ++ word ++ "'"
  | noField => "missing field name"
  | tooManySegments => "too many bracket segments"
  | emptyPathSegment => "empty field path segment"
  | unknownDirection word => "unknown sort direction '" ++ word ++ "'"
  | malformedOrder entry => "malformed order '" ++ entry ++ "'"
  | emptyOrder => "empty order"
  | notACount text => "'" ++ text ++ "' is not a non-negative integer"
  | emptyValue => "empty value"
  | notAPosition text => "'" ++ text ++ "' is not a position"

/-- The report of a malformed query string. -/
structure ParseError where
  /-- The key that is malformed. -/
  key : String
  /-- What is wrong with it. -/
  detail : String
deriving DecidableEq, Repr

/-- The report of a cause that was found in a key. -/
def ParseFault.at (fault : ParseFault) (key : String) : ParseError := ⟨key, fault.message⟩

/-- The text of the report. -/
def ParseError.message (e : ParseError) : String :=
  "malformed query key '" ++ e.key ++ "': " ++ e.detail

end Listing
