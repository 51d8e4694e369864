import Listing.Query.Model
import Listing.Search.Clause

/-!
# Query models as clauses

The clause of a model, its order and its fields in the terms of the search index, and the way back
from a document to a record. As for the relational store, a record meets the conditions if all
conditions of the one group hold or some condition of the other holds, and a condition whose
operator does not go with its operand is refused.

Texts are looked for differently here: all words of all texts together, each in some field.
-/

namespace Listing.Search

/-- Whether a field has a value. A field that always has one is never without. -/
def equals (f : Field) : Value → Clause
  | .null => if f.nullable then .noneOf (.present f.indexField) else .noneOf .matchAll
  | v => .term f.exactIndexField v

/-- Whether a field has one of some values. -/
def equalsAny (f : Field) (values : List Value) : Clause := .someOf (values.map (equals f))

/-- A condition, if its operator goes with its operand. -/
def condition? (c : Condition) : Option Clause :=
  match c.operator, c.operand with
  | .equal, .values vs => some (equalsAny c.field vs)
  | .notEqual, .values vs => some (.noneOf (equalsAny c.field vs))
  | op, .bound v => if op.isComparison then some (.range c.field.exactIndexField op v) else none
  | op, .pattern p =>
    let fits := Clause.fits c.field.exactIndexField p.lucene
    if op.isPattern then some (if op.isNegated then .noneOf fits else fits) else none
  | _, .values _ => none

/-- The failures of conditions, in order. -/
def mismatches (cs : List Condition) : List Failure :=
  (cs.filter fun c => (condition? c).isNone).map Condition.mismatch

/-- The clause of the conditions of two groups, all of the first or some of the second. -/
def groupClause? (all any : List Clause) : Option Clause :=
  if all.isEmpty && any.isEmpty then none
  else some (.someOf ((if all.isEmpty then [] else [.allOf all]) ++ any))

/-- The clause of the conditions of a model; none if there are no conditions. -/
def whereClause (m : Model) : Except (List Failure) (Option Clause) :=
  match mismatches (m.allConditions ++ m.anyConditions) with
  | [] =>
    .ok (groupClause? (m.allConditions.filterMap condition?) (m.anyConditions.filterMap condition?))
  | failures => .error failures

/-- The clause for the words to find in fields; none if there are no fields. -/
def wordsIn? (text : String) (fuzzy : Bool) (fields : List Field) : Option Clause :=
  if fields.isEmpty then none else some (.words text (fields.map (·.indexField)) fuzzy)

/-- The clause for the texts to find: in fields with texts similar words count too, in other fields
only the words themselves. -/
def termsClause? (m : Model) : Option Clause :=
  if !m.hasTerms then none
  else
    let text := " ".intercalate m.terms
    let (texts, others) := m.entity.searchable.partition fun f => f.type = .text
    match (wordsIn? text true texts).toList ++ (wordsIn? text false others).toList with
    | [] => none
    | clauses => some (.someOf clauses)

/-- The clause of several clauses that all have to be met. -/
def conjunction : List Clause → Clause
  | [] => .matchAll
  | [c] => c
  | clauses => .allOf clauses

/-- The clause of a model. -/
def queryClause (m : Model) : Except (List Failure) Clause :=
  (whereClause m).map fun found => conjunction (found.toList ++ (termsClause? m).toList)

/-- The order of a model; without one, the best matches come first. -/
def sortJson (m : Model) : List Json :=
  if m.order.isEmpty then [Clause.only "_score" (Clause.only "order" (.string "desc"))]
  else
    m.order.map fun k =>
      Clause.only k.field.exactIndexField (.ofPairs
        [("order", .string (if k.ascending then "asc" else "desc")),
          ("unmapped_type", .string "long")])

/-- The fields of a model that only asks for some. -/
def sourceJson? (m : Model) : Option Json :=
  if m.isProjection then
    some (Clause.only "includes" (.array (m.select.map fun f => .string f.indexField)))
  else none

/-- The name in a record of a member of a document. What is no field keeps its name. -/
def recordName (e : Entity) (name : String) : String :=
  ((e.fieldOfIndex? name).map (·.name)).getD name

/-- The record of a document. If two members get the same name, the later one counts. -/
def toRecord (e : Entity) (document : Members) : Members :=
  Members.ofPairs (document.map fun p => (recordName e p.1, p.2))

end Listing.Search
