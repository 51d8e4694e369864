/-!
# Operators

The ten tests that a filter condition can apply to a field, and the words for them in a query
string. `ofWord?_word` says that the words are told apart.
-/

namespace Listing

/-- A test of a field against a value. -/
inductive Operator where
  /-- The field has one of the given values. -/
  | equal
  /-- The field has none of the given values. -/
  | notEqual
  /-- The field is above a bound. -/
  | greaterThan
  /-- The field is at or above a bound. -/
  | greaterOrEqual
  /-- The field is below a bound. -/
  | lessThan
  /-- The field is at or below a bound. -/
  | lessOrEqual
  /-- The text fits an expression. -/
  | like
  /-- The text does not fit an expression. -/
  | notLike
  /-- The text fits a wildcard pattern. -/
  | contains
  /-- The text does not fit a wildcard pattern. -/
  | notContains
deriving DecidableEq, Repr

namespace Operator

/-- The word for an operator. -/
def word : Operator → String
  | equal => "eq"
  | notEqual => "neq"
  | greaterThan => "gt"
  | greaterOrEqual => "gte"
  | lessThan => "lt"
  | lessOrEqual => "lte"
  | like => "like"
  | notLike => "nlike"
  | contains => "contains"
  | notContains => "ncontains"

/-- All operators. -/
def all : List Operator :=
  [equal, notEqual, greaterThan, greaterOrEqual, lessThan, lessOrEqual, like, notLike, contains,
    notContains]

/-- The operator with a word, which is spelled exactly. -/
def ofWord? (w : String) : Option Operator := all.find? (·.word == w)

/-- Whether the operator is the denial of another one. -/
def isNegated : Operator → Bool
  | notEqual | notLike | notContains => true
  | _ => false

/-- Whether the operator compares with a bound. -/
def isComparison : Operator → Bool
  | greaterThan | greaterOrEqual | lessThan | lessOrEqual => true
  | _ => false

/-- Whether the operator fits texts to a pattern. -/
def isPattern : Operator → Bool
  | like | notLike | contains | notContains => true
  | _ => false

/-- Every operator is found by its word. -/
theorem ofWord?_word (op : Operator) : ofWord? op.word = some op := by
  cases op <;> decide

/-- Every operator is one of the list. -/
theorem mem_all (op : Operator) : op ∈ all := by cases op <;> decide

end Operator

end Listing
