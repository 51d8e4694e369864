import Listing.Proofs.Results
import Listing.Search.Compile
import Listing.Sql.Compile

/-!
# Both Stores Refuse the Same Models

A model may have conditions that no query string asks for: the operator of a condition may not
be one of those that its operand goes with. Each of the two stores has its own reading of
operators and operands and refuses what it cannot read, and a model must not be refused by the
one and answered by the other. Both refuse exactly the conditions that are **mismatched**, all
of them, and say the same of each.

Nothing is assumed of the models here, in particular not that they are built.

## Main results

* `Sql.isNone_condition?`, `Search.isNone_condition?` — each store refuses the mismatched
  conditions.
* `filterOf_refused_iff_whereClause` — the filter and the clause of a model are refused for
  the same failures, one for each mismatched condition.
* `countText_refused_iff`, `pageText_refused_iff` — so are the requests to the stores.
-/

namespace Listing

/-- The operators that an operand **goes with**. -/
def Operand.operators : Operand → List Operator
  | .values _ => [.equal, .notEqual]
  | .bound _ => [.greaterThan, .greaterOrEqual, .lessThan, .lessOrEqual]
  | .pattern _ => [.like, .notLike, .contains, .notContains]

/-- A **mismatched** condition: its operand does not go with its operator. -/
def Condition.isMismatched (c : Condition) : Bool := c.operator ∉ c.operand.operators

/-- The mismatched conditions of a model, those that all have to hold first. -/
def Model.mismatched (m : Model) : List Condition :=
  m.allConditions.filter Condition.isMismatched ++ m.anyConditions.filter Condition.isMismatched

/-! ### Conditions -/

/-- The relational store refuses the **mismatched** conditions. -/
theorem Sql.isNone_condition? (c : Condition) : (condition? c).isNone = c.isMismatched := by
  obtain ⟨field, operator, operand, source⟩ := c
  cases operand <;> cases operator <;> rfl

/-- The search index refuses the **mismatched** conditions. -/
theorem Search.isNone_condition? (c : Condition) : (condition? c).isNone = c.isMismatched := by
  obtain ⟨field, operator, operand, source⟩ := c
  cases operand <;> cases operator <;> rfl

/-- The relational store reports the mismatched conditions of a model. -/
theorem Sql.mismatches_eq (m : Model) :
    mismatches (m.allConditions ++ m.anyConditions) = m.mismatched.map Condition.mismatch := by
  simp only [mismatches, isNone_condition?, List.filter_append, Model.mismatched]

/-- The search index reports the mismatched conditions of a model. -/
theorem Search.mismatches_eq (m : Model) :
    mismatches (m.allConditions ++ m.anyConditions) = m.mismatched.map Condition.mismatch := by
  simp only [mismatches, isNone_condition?, List.filter_append, Model.mismatched]

/-! ### Models -/

variable {m : Model} {failures : List Failure}

/-- There is no filter exactly if there are mismatched conditions. -/
theorem Sql.filterOf_eq_error :
    filterOf m = .error failures ↔
      failures ≠ [] ∧ failures = m.mismatched.map Condition.mismatch := by
  rw [← Sql.mismatches_eq]
  refine collected_eq_error ?_ ?_
  · intro hnil
    exact ⟨_, by rw [filterOf, hnil]⟩
  · intro hfound
    rw [filterOf]
    split
    · next hnil => exact absurd hnil hfound
    · rfl

/-- There is no clause exactly if there are mismatched conditions. -/
theorem Search.whereClause_eq_error :
    whereClause m = .error failures ↔
      failures ≠ [] ∧ failures = m.mismatched.map Condition.mismatch := by
  rw [← Search.mismatches_eq]
  refine collected_eq_error ?_ ?_
  · intro hnil
    exact ⟨_, by rw [whereClause, hnil]⟩
  · intro hfound
    rw [whereClause]
    split
    · next hnil => exact absurd hnil hfound
    · rfl

/-- Whatever the conditions of a model are, it has no filter exactly if it has no clause, and
**for the same failures**: one for each condition whose operator does not go with its operand,
those that all have to hold first, in their order. -/
theorem filterOf_refused_iff_whereClause (m : Model) (failures : List Failure) :
    (Sql.filterOf m = .error failures ↔ Search.whereClause m = .error failures) ∧
      (Sql.filterOf m = .error failures ↔ failures ≠ [] ∧
        failures = (m.allConditions.filter Condition.isMismatched ++
          m.anyConditions.filter Condition.isMismatched).map fun c =>
            ⟨c.source, "'" ++ c.operator.word ++ "' cannot be applied to this value"⟩) :=
  ⟨Sql.filterOf_eq_error.trans Search.whereClause_eq_error.symm, Sql.filterOf_eq_error⟩

/-- The statement for the count is refused exactly if the query is. -/
theorem countText_refused_iff :
    Sql.countText m = .error failures ↔ Search.queryClause m = .error failures := by
  rw [Sql.countText, Sql.countStatement, Search.queryClause, map_eq_error, map_eq_error,
    map_eq_error, Sql.filterOf_eq_error, Search.whereClause_eq_error]

/-- So is the statement for the page. -/
theorem pageText_refused_iff :
    Sql.pageText m = .error failures ↔ Search.queryClause m = .error failures := by
  rw [Sql.pageText, Sql.pageStatement, Search.queryClause, map_eq_error, map_eq_error,
    map_eq_error, Sql.filterOf_eq_error, Search.whereClause_eq_error]

end Listing
