import Listing.Query.Value
import Listing.Sql.Simplify

/-!
# The Three-Valued Meaning of Expressions

`Expr.eval` gives an expression a value in a row of a table. Conjunction, disjunction and
denial follow the three-valued logic of SQL, in which `NULL` is the unknown truth value;
parentheses mean nothing; and `COALESCE`, in any letter case, is its first argument that
is there. All other operations are those of an **interpretation** and may be any functions
of the values of their operands. A filter keeps a row if it is `TRUE` there, and a missing
filter keeps every row.

## Main results

* `Value.junction_false_eq_true`, `Value.junction_true_eq_true` — when a conjunction or a
  disjunction is `TRUE`.
* `Value.junction_neutral_left`, `Value.junction_neutral_right` — a known operand that does
  not decide a junction leaves the other one.
* `keeps_getD` — a missing filter is one that is always `TRUE`.
-/

namespace Listing

namespace Value

/-! ### Three-valued logic -/

/-- Whether the value is a truth value or unknown. -/
def isLogical : Value → Bool
  | null | boolean _ => true
  | _ => false

/-- The **junction** of two truth values in which one of them, the absorbing one, decides
alone: with `false` it is the conjunction and with `true` the disjunction. If nothing
decides, it is unknown. -/
def junction (absorbing : Bool) (v w : Value) : Value :=
  if v = boolean absorbing ∨ w = boolean absorbing then boolean absorbing
  else if v = boolean !absorbing ∧ w = boolean !absorbing then boolean !absorbing
  else null

/-- The **denial** of a truth value; what is unknown stays unknown. -/
def denied : Value → Value
  | boolean b => boolean !b
  | _ => null

/-- The first of some values that is there. -/
def firstPresent : List Value → Value
  | [] => null
  | v :: rest => if v.isNull then firstPresent rest else v

/-- A value is a truth value or unknown exactly if it is one of three. -/
theorem isLogical_iff {v : Value} :
    v.isLogical ↔ v = null ∨ v = boolean true ∨ v = boolean false := by
  cases v with
  | boolean b => cases b <;> simp [isLogical]
  | _ => simp [isLogical]

/-- A conjunction is `TRUE` exactly if both operands are. -/
@[simp] theorem junction_false_eq_true {v w : Value} :
    junction false v w = boolean true ↔ v = boolean true ∧ w = boolean true := by
  by_cases h : v = boolean false ∨ w = boolean false
  · rcases h with rfl | rfl <;> simp [junction]
  · by_cases h' : v = boolean true ∧ w = boolean true <;> simp [junction, h, h']

/-- A disjunction is `TRUE` exactly if one operand is. -/
@[simp] theorem junction_true_eq_true {v w : Value} :
    junction true v w = boolean true ↔ v = boolean true ∨ w = boolean true := by
  by_cases h : v = boolean true ∨ w = boolean true
  · simp [junction, h]
  · by_cases h' : v = boolean false ∧ w = boolean false <;> simp [junction, h, h']

/-- A junction is a truth value or unknown. -/
@[simp] theorem isLogical_junction (absorbing : Bool) (v w : Value) :
    (junction absorbing v w).isLogical := by
  unfold junction
  split
  · rfl
  · split <;> rfl

/-- The absorbing truth value decides a junction from the left. -/
@[simp] theorem junction_absorbing_left (b : Bool) (w : Value) :
    junction b (boolean b) w = boolean b := by
  simp [junction]

/-- The absorbing truth value decides a junction from the right. -/
@[simp] theorem junction_absorbing_right (b : Bool) (v : Value) :
    junction b v (boolean b) = boolean b := by
  simp [junction]

/-- The other truth value leaves the right operand of a junction. -/
theorem junction_neutral_left {b : Bool} {w : Value} (h : w.isLogical) :
    junction b (boolean !b) w = w := by
  rcases isLogical_iff.mp h with rfl | rfl | rfl <;> cases b <;> rfl

/-- The other truth value leaves the left operand of a junction. -/
theorem junction_neutral_right {b : Bool} {v : Value} (h : v.isLogical) :
    junction b v (boolean !b) = v := by
  rcases isLogical_iff.mp h with rfl | rfl | rfl <;> cases b <;> rfl

/-- A denial is a truth value or unknown. -/
@[simp] theorem isLogical_denied (v : Value) : v.denied.isLogical := by
  cases v <;> rfl

end Value

namespace Sql

/-! ### Expressions -/

/-- The value of a constant. -/
def Literal.value : Literal → Value
  | null => .null
  | boolean b => .boolean b
  | integer n => .integer n
  | float x => .float x
  | string s => .text s
  | timestamp i => .instant i

/-- A **row**: the value of each column. -/
abbrev Row := String → Value

/-- An **interpretation** of the operations that are not logical. -/
structure Interpretation where
  /-- An operation on two operands other than a conjunction or a disjunction. -/
  compare : BinaryOp → Value → Value → Value
  /-- A function other than `COALESCE`. -/
  call : String → List Value → Value
  /-- A value as one of another type. -/
  cast : String → Value → Value
  /-- Whether a value is missing, or with `true` whether it is there. -/
  isNull : Bool → Value → Value
  /-- Whether a value is in a list, or with `true` whether it is not. -/
  inList : Bool → Value → List Value → Value
  /-- What stands for all columns. -/
  wildcard : Value

/-- A function of some values. -/
def Interpretation.apply (I : Interpretation) (name : String) (args : List Value) : Value :=
  if name.equalsIgnoringCase "COALESCE" then Value.firstPresent args else I.call name args

namespace Expr

mutual

/-- The **value** of an expression in a row. -/
def eval (I : Interpretation) (row : Row) : Expr → Value
  | column name => row name
  | literal l => l.value
  | binary left .and right => Value.junction false (left.eval I row) (right.eval I row)
  | binary left .or right => Value.junction true (left.eval I row) (right.eval I row)
  | binary left op right => I.compare op (left.eval I row) (right.eval I row)
  | not e => (e.eval I row).denied
  | call name args => I.apply name (evalAll I row args)
  | inList e items negated => I.inList negated (e.eval I row) (evalAll I row items)
  | isNull e negated => I.isNull negated (e.eval I row)
  | cast e type => I.cast type (e.eval I row)
  | wildcard => I.wildcard
  | nested e => e.eval I row

/-- The values of several expressions in a row. -/
def evalAll (I : Interpretation) (row : Row) : List Expr → List Value
  | [] => []
  | e :: rest => e.eval I row :: evalAll I row rest

end

/-- Whether an expression is `TRUE` in a row. -/
def holds (I : Interpretation) (row : Row) (e : Expr) : Bool := e.eval I row = .boolean true

end Expr

/-- Whether a filter **keeps** a row. -/
def keeps (I : Interpretation) (row : Row) (filter : Option Expr) : Bool :=
  filter.all (·.holds I row)

/-- A missing filter is one that is always `TRUE`. -/
theorem keeps_getD (I : Interpretation) (row : Row) (filter : Option Expr) :
    (filter.getD (.boolean true)).holds I row = keeps I row filter := by
  cases filter <;> simp [keeps, Expr.holds, Expr.boolean, Expr.eval, Literal.value]

end Sql

end Listing
