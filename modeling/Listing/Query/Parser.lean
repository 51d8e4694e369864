import Listing.Number.Integer
import Listing.Query.Directive
import Listing.Query.Fault
import Listing.Text.Blank
import Listing.Text.LetterCase
import Listing.Text.Percent

/-!
# Reading query strings

A query string is a list of pairs `key=value`, joined by `&` and percent encoded. A key is a word
and any number of segments in brackets, such as `filter[where][Name][contains]`. The parser knows
what a key may say but nothing about entities.

`Directive.parse` reads a whole query string, pair by pair. The pairs do not influence each other:
the answer is the list of what each pair asks for or the report of the first pair that is refused.
-/

namespace Listing

namespace Query

/-- The steps of reading one key. -/
abbrev Reading := Except ParseFault

/-- A percent encoded text, in which a plus sign stands for a blank. -/
def decode? (text : List Char) : Option String :=
  Text.Percent.decode (String.ofList (text.map fun c => if c = '+' then ' ' else c))

/-- A percent encoded half of a pair. -/
def decode (text : List Char) : Except ParseError (List Char) :=
  match decode? text with
  | some s => .ok s.toList
  | none => .error (ParseFault.badEncoding.at (String.ofList text))

/-! ### Keys -/

/-- A key: a word and the segments in the brackets behind it. -/
structure Key where
  /-- The word in front of the brackets. -/
  head : List Char
  /-- What stands in the brackets. -/
  segments : List (List Char)
deriving DecidableEq, Repr

/-- The segments of a text of bracketed segments. -/
def readSegments : List Char → Reading (List (List Char))
  | [] => .ok []
  | c :: inner =>
    if c ≠ '[' then .error .textBetweenBrackets
    else
      match _h : inner.dropWhile (· ≠ ']') with
      | [] => .error .unbalancedBrackets
      | _ :: rest =>
        let segment := inner.takeWhile (· ≠ ']')
        if '[' ∈ segment then .error .nestedBrackets
        else if (Text.trim segment).isEmpty then .error .emptySegment
        else
          match readSegments rest with
          | .ok more => .ok (segment :: more)
          | .error fault => .error fault
termination_by cs => cs.length
decreasing_by
  have := (List.dropWhile_suffix (l := inner) (fun x => decide (x ≠ ']'))).length_le
  rw [_h] at this
  simp only [List.length_cons] at this ⊢
  omega

/-- The parts of a key. -/
def Key.read (cs : List Char) : Reading Key :=
  let head := cs.takeWhile (· ≠ '[')
  if head.isEmpty || ']' ∈ head then .error .malformedKey
  else (readSegments (cs.dropWhile (· ≠ '['))).map fun found => ⟨head, found⟩

/-! ### Conditions -/

/-- The path of a field: parts between dots, without the blanks around them. -/
def path (field : List Char) : Reading (List String) :=
  let parts := (List.splitOn '.' field).map Text.trim
  if parts.any (·.isEmpty) then .error .emptyPathSegment else .ok (parts.map String.ofList)

/-- The field and the operator of a condition. Without an operator values are compared. -/
def fieldAndOperator : List (List Char) → Reading (List Char × Operator)
  | [] => .error .noField
  | [field] => .ok (field, .equal)
  | [field, word] =>
    match Operator.ofWord? (String.ofList word) with
    | some op => .ok (field, op)
    | none => .error (.unknownOperator (String.ofList word))
  | _ => .error .tooManySegments

/-- The group of a condition and the segments that follow. -/
def groupOf : List (List Char) → GroupKind × List (List Char)
  | first :: rest => if first = ['o', 'r'] then (.any, rest) else (.all, first :: rest)
  | [] => (.all, [])

/-- A condition. -/
def selection (found : List (List Char)) (value source : List Char) : Reading Selection := do
  let (group, rest) := groupOf found
  let (field, operator) ← fieldAndOperator rest
  let path ← path field
  return ⟨path, operator, String.ofList value, group, String.ofList source⟩

/-! ### Orders, counts and lists -/

/-- The position that a list or an order may have. -/
def position : List (List Char) → Reading Nat
  | [] => .ok 0
  | [segment] =>
    match Number.count? (Text.trim segment) with
    | some n => .ok n
    | none => .error (.notAPosition (String.ofList segment))
  | _ => .error .tooManySegments

/-- The direction of a key of an order. -/
def ascending? (word : List Char) : Reading Bool :=
  if Text.equalAscii word ['a', 's', 'c'] then .ok true
  else if Text.equalAscii word ['d', 'e', 's', 'c'] then .ok false
  else .error (.unknownDirection (String.ofList word))

/-- A key of an order: a field and perhaps a direction. -/
def sorting (index : Nat) (source entry : List Char) : Reading Sorting :=
  match Text.words entry with
  | [] => .ok ⟨index, "", true, String.ofList source⟩
  | [field] => .ok ⟨index, String.ofList field, true, String.ofList source⟩
  | field :: word :: more =>
    match ascending? word with
    | .error fault => .error fault
    | .ok ascending =>
      if more.isEmpty then .ok ⟨index, String.ofList field, ascending, String.ofList source⟩
      else .error (.malformedOrder (String.ofList entry))

/-- The entries of a list that commas separate; blank ones do not count. -/
def entries (value : List Char) : List (List Char) :=
  ((List.splitOn ',' value).map Text.trim).filter (!·.isEmpty)

/-- An order. -/
def sortings (found : List (List Char)) (value source : List Char) : Reading (List Sorting) := do
  let index ← position found
  let keys ← (entries value).mapM (sorting index source)
  if keys.isEmpty then throw .emptyOrder
  return keys

/-- A count. -/
def count (found : List (List Char)) (value : List Char) : Reading Nat :=
  if !found.isEmpty then .error .tooManySegments
  else
    match Number.count? (Text.trim value) with
    | some n => .ok n
    | none => .error (.notACount (String.ofList value))

/-- A name that may be one of several. -/
def listed (found : List (List Char)) (value : List Char) : Reading String := do
  let _ ← position found
  let name := Text.trim value
  if name.isEmpty then throw .emptyValue
  return String.ofList name

/-! ### Pairs -/

/-- What a filter asks for, by the first segment of its key. -/
def filter (directive : List Char) (found : List (List Char)) (value source : List Char) :
    Reading (List Directive) :=
  let name := String.ofList directive
  let source' := String.ofList source
  if name = "where" then (selection found value source).map fun s => [.selection s]
  else if name = "order" then (sortings found value source).map (·.map .sorting)
  else if name = "skip" then (count found value).map fun n => [.skip n source']
  else if name = "limit" then (count found value).map fun n => [.limit n source']
  else if name = "include" then (listed found value).map fun n => [.relation n source']
  else if name = "select" then (listed found value).map fun n => [.field n source']
  else .error (.unknownDirective name)

/-- What a pair asks for. -/
def pair (key value : List Char) : Reading (List Directive) := do
  let read ← Key.read key
  let head := String.ofList read.head
  if head = "query" then
    if read.segments.isEmpty then return [.freeText (String.ofList value)]
    else throw .bracketsOnFreeText
  else if head = "filter" then
    match read.segments with
    | [] => throw .noDirective
    | directive :: rest => filter directive rest value (key ++ '=' :: value)
  else throw (.unknownParameter head)

/-- What a piece of a query string asks for. -/
def piece (cs : List Char) : Except ParseError (List Directive) :=
  match cs.dropWhile (· ≠ '=') with
  | [] => .error (ParseFault.noEquals.at ((decode? cs).getD (String.ofList cs)))
  | _ :: rawValue => do
    let key ← decode (cs.takeWhile (· ≠ '='))
    let value ← decode rawValue
    (pair key value).mapError (·.at (String.ofList key))

/-- The pieces of a query string. One question mark in front and empty pieces do not count. -/
def pieces (cs : List Char) : List (List Char) :=
  let body :=
    match cs with
    | '?' :: rest => rest
    | _ => cs
  (List.splitOn '&' body).filter (!·.isEmpty)

end Query

/-- What a query string asks for, in its order. -/
def Directive.parse (text : String) : Except ParseError (List Directive) :=
  ((Query.pieces text.toList).mapM Query.piece).map List.flatten

end Listing
