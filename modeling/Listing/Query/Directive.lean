import Listing.Query.Operator

/-!
# Directives

What a query string asks for, one `Directive` for each of its pairs and for each key of an order.
Names of fields and relations are kept as they were written; whether they exist is found out
later, for the entity at hand.
-/

namespace Listing

/-- How the conditions of a group work together. -/
inductive GroupKind where
  /-- All conditions hold. -/
  | all
  /-- Some condition holds. -/
  | any
deriving DecidableEq, Repr

/-- The word for a kind of group. -/
def GroupKind.word : GroupKind → String
  | all => "and"
  | any => "or"

/-- A condition as it was written. -/
structure Selection where
  /-- The parts of the field's name that stand between dots. -/
  path : List String
  /-- The test. -/
  operator : Operator
  /-- The text to test against. -/
  rawValue : String
  /-- The group that the condition belongs to. -/
  group : GroupKind
  /-- The text of the pair. -/
  source : String
deriving DecidableEq, Repr

/-- The first part of the path. -/
def Selection.fieldName (s : Selection) : String := s.path.headD ""

/-- A key of the order as it was written. -/
structure Sorting where
  /-- The position among the other keys. -/
  index : Nat
  /-- The name of the field. -/
  field : String
  /-- Whether small values come first. -/
  ascending : Bool
  /-- The text of the pair. -/
  source : String
deriving DecidableEq, Repr

/-- One thing that a query string asks for. -/
inductive Directive where
  /-- Only the records that meet a condition. -/
  | selection (s : Selection)
  /-- The records in an order. -/
  | sorting (s : Sorting)
  /-- Without the first records. -/
  | skip (count : Nat) (source : String)
  /-- No more than some records. -/
  | limit (count : Nat) (source : String)
  /-- With the related records of a relation. -/
  | relation (name source : String)
  /-- With a field, and without those that are not asked for. -/
  | field (name source : String)
  /-- Only the records that a text is found in. -/
  | freeText (text : String)
deriving DecidableEq, Repr

/-- The text that a directive comes from. Free text has none. -/
def Directive.source : Directive → String
  | selection s => s.source
  | sorting s => s.source
  | skip _ source | limit _ source | relation _ source | field _ source => source
  | freeText _ => ""

end Listing
