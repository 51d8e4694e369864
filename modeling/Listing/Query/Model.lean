import Listing.Pattern.Segment
import Listing.Query.Directive
import Listing.Query.Fault
import Listing.Query.Value
import Listing.Schema.Entity

/-!
# Query models

A `Model` is a request for a page of the records of one entity: which records, in which order, how
many of them, and what each of them holds. It says nothing about the store that answers it.
-/

namespace Listing

/-- What a field is compared with. -/
inductive Operand where
  /-- Alternatives, of which the field has one. -/
  | values (vs : List Value)
  /-- The bound of a comparison. -/
  | bound (v : Value)
  /-- A pattern that texts are fitted to. -/
  | pattern (p : Pattern)
deriving DecidableEq, Repr

/-- A test of a field. -/
structure Condition where
  /-- The field. -/
  field : Field
  /-- The test. -/
  operator : Operator
  /-- What the field is compared with. -/
  operand : Operand
  /-- The text of the request that the condition comes from. -/
  source : String
deriving DecidableEq, Repr

/-- The failure of a condition whose operator does not go with its operand. -/
def Condition.mismatch (c : Condition) : Failure :=
  ⟨c.source, "'" ++ c.operator.word ++ "' cannot be applied to this value"⟩

/-- Conditions that work together. -/
structure Group where
  /-- How they work together. -/
  kind : GroupKind
  /-- The conditions, in order. -/
  conditions : List Condition
deriving DecidableEq, Repr

/-- A key of an order. -/
structure SortKey where
  /-- The field to order by. -/
  field : Field
  /-- Whether small values come first. -/
  ascending : Bool
deriving DecidableEq, Repr

/-- A request for a page of records. -/
structure Model where
  /-- The entity whose records are asked for. -/
  entity : Entity
  /-- The conditions, by group. -/
  groups : List Group
  /-- The keys of the order; without keys the store has an order of its own. -/
  order : List SortKey
  /-- The fields that are asked for; without any, all are. -/
  select : List Field
  /-- The relations whose records are asked for too. -/
  includes : List Relation
  /-- The number of records in front of the page. -/
  skip : Nat
  /-- The largest number of records of the page. -/
  limit : Nat
  /-- The texts to find. -/
  terms : List String

namespace Model

/-- The conditions of the groups of a kind. -/
def conditionsOf (m : Model) (kind : GroupKind) : List Condition :=
  (m.groups.filter (·.kind = kind)).flatMap (·.conditions)

/-- The conditions that all have to hold. -/
def allConditions (m : Model) : List Condition := m.conditionsOf .all

/-- The conditions of which one has to hold. -/
def anyConditions (m : Model) : List Condition := m.conditionsOf .any

/-- Whether there are texts to find. -/
def hasTerms (m : Model) : Bool := !m.terms.isEmpty

/-- Whether only some fields are asked for. -/
def isProjection (m : Model) : Bool := !m.select.isEmpty

end Model

end Listing
