import Listing.Proofs.Sql.Preservation
import Listing.Proofs.Sql.Shape
import Mathlib.Data.List.Infix

/-!
# Conditions Are True Where They Hold

A condition of a model is an expression of three-valued logic in a statement. The two
agree because a condition that could be unknown where it should hold — a denied one — is
put behind `COALESCE`, and because a field that always has a value is never compared with
none.

An `Engine` is what the store itself decides: how values that are there compare, how they
fit expressions, and how they are written as texts. Comparing with `NULL` is unknown.
Whether a text is found is settled by `strpos`, which is defined here.

## Main results

* `Expr.holds_join_or`, `Expr.holds_join_and`, `holds_denial` — when the expressions that
  statements are made of are `TRUE`.
* `Expr.IsFilter.proper` — a filter is a truth value or unknown, whatever the row.
* `holds_condition` — a sound condition is `TRUE` exactly where it holds.
-/

namespace Listing.Sql

/-! ### The store -/

/-- The **store** that statements are sent to: its tests on values that are there. -/
structure Engine where
  /-- Whether two values that are there compare as the operator says. -/
  test : BinaryOp → Value → Value → Bool
  /-- A value that is there as a text. -/
  written : Value → String
  /-- A value that is there as one of another type. -/
  cast : String → Value → Value
  /-- Functions other than `COALESCE` and `strpos`. -/
  call : String → List Value → Value
  /-- Integers are compared as numbers. -/
  test_gt_integer : ∀ a b : Int, test .gt (.integer a) (.integer b) = decide (b < a)

/-- The **position** of the first occurrence of a text, counted from one; zero if there is
none. -/
def position (term : List Char) : List Char → Nat
  | [] => if term.isEmpty then 1 else 0
  | c :: cs =>
    if term.isPrefixOf (c :: cs) then 1
    else if position term cs = 0 then 0
    else position term cs + 1

/-- A text has a position exactly if it occurs. -/
theorem position_pos_iff {term cs : List Char} : 0 < position term cs ↔ term <:+: cs := by
  induction cs with
  | nil => by_cases h : term = [] <;> simp [position, h]
  | cons c cs ih =>
      rw [position, List.infix_cons_iff, ← ih]
      by_cases hstart : term <+: c :: cs
      · simp [hstart]
      · by_cases hzero : position term cs = 0 <;> simp [hstart, hzero]; omega

namespace Engine

/-- Two values as the store compares them: unknown if one is missing. -/
def compare (E : Engine) (op : BinaryOp) (v w : Value) : Value :=
  if v.isNull || w.isNull then .null else .boolean (E.test op v w)

/-- A function other than `COALESCE`. -/
def apply (E : Engine) (name : String) (args : List Value) : Value :=
  if name = "strpos" then
    match args with
    | [.text s, .text term] => .integer (position term.toList s.toList)
    | _ => .null
  else E.call name args

/-- What the operations of an expression mean to the store. -/
def interpretation (E : Engine) : Interpretation where
  compare := E.compare
  call := E.apply
  cast type v :=
    if v.isNull then .null else if type = "TEXT" then .text (E.written v) else E.cast type v
  isNull negated v := .boolean (v.isNull != negated)
  inList negated v items :=
    let found := items.foldr (fun w rest => Value.junction true (E.compare .eq v w) rest)
      (.boolean false)
    if negated then found.denied else found
  wildcard := .null

@[simp] theorem interpretation_compare (E : Engine) : E.interpretation.compare = E.compare := rfl

@[simp] theorem interpretation_call (E : Engine) : E.interpretation.call = E.apply := rfl

@[simp] theorem interpretation_cast (E : Engine) (type : String) (v : Value) :
    E.interpretation.cast type v =
      if v.isNull then .null
      else if type = "TEXT" then .text (E.written v)
      else E.cast type v :=
  rfl

@[simp] theorem interpretation_isNull (E : Engine) (negated : Bool) (v : Value) :
    E.interpretation.isNull negated v = .boolean (v.isNull != negated) := rfl

/-- The tests of the store that conditions and texts to find need. -/
def tests (E : Engine) : Tests where
  equal := E.test .eq
  compare
    | .greaterThan => E.test .gt
    | .greaterOrEqual => E.test .ge
    | .lessThan => E.test .lt
    | .lessOrEqual => E.test .le
    | _ => fun _ _ => false
  fits v p := E.test .fits v (.text (String.ofList p.posix))
  contains v term := decide (term.toList <:+: (E.written v).toList)

end Engine

/-- The value of each field in a row. -/
def Row.valueOf (row : Row) (f : Field) : Value := row f.column

variable {E : Engine} {row : Row}

/-! ### When expressions are true -/

namespace Expr

variable {I : Interpretation}

/-- Expressions of one value are `TRUE` together. -/
theorem holds_congr {e e' : Expr} (h : e.eval I row = e'.eval I row) :
    e.holds I row = e'.holds I row := by
  simp only [holds, h]

/-- A constant is `TRUE` if it is. -/
@[simp] theorem holds_boolean (b : Bool) : (boolean b).holds I row = b := by
  cases b <;> simp [holds, boolean, eval, Literal.value]

/-- Parentheses do not matter. -/
@[simp] theorem holds_nested (e : Expr) : (nested e).holds I row = e.holds I row :=
  holds_congr (by rw [eval])

/-- A conjunction is `TRUE` if both operands are. -/
@[simp] theorem holds_and (left right : Expr) :
    (binary left .and right).holds I row = (left.holds I row && right.holds I row) := by
  simp [holds, eval]

/-- A disjunction is `TRUE` if one operand is. -/
@[simp] theorem holds_or (left right : Expr) :
    (binary left .or right).holds I row = (left.holds I row || right.holds I row) := by
  simp [holds, eval]

/-- Expressions joined by `OR` behind another one. -/
theorem holds_foldl_or (es : List Expr) : ∀ e : Expr,
    (es.foldl (fun joined r => binary joined .or (nested r)) e).holds I row =
      (e.holds I row || es.any (·.holds I row)) := by
  induction es with
  | nil => simp
  | cons r rest ih =>
      intro e
      rw [List.foldl_cons, ih, holds_or, holds_nested, List.any_cons, Bool.or_assoc]

/-- Expressions joined by `AND` behind another one. -/
theorem holds_foldl_and (es : List Expr) : ∀ e : Expr,
    (es.foldl (fun joined r => binary joined .and (nested r)) e).holds I row =
      (e.holds I row && es.all (·.holds I row)) := by
  induction es with
  | nil => simp
  | cons r rest ih =>
      intro e
      rw [List.foldl_cons, ih, holds_and, holds_nested, List.all_cons, Bool.and_assoc]

/-- Expressions joined by `OR` are `TRUE` if one of them is; none are not. -/
theorem holds_join_or (es : List Expr) :
    ((join? .or es).getD (boolean false)).holds I row = es.any (·.holds I row) := by
  cases es with
  | nil => simp [join?]
  | cons e rest => simp [join?, holds_foldl_or]

/-- Expressions joined by `AND` are `TRUE` if all of them are; none are. -/
theorem holds_join_and (es : List Expr) :
    ((join? .and es).getD (boolean true)).holds I row = es.all (·.holds I row) := by
  cases es with
  | nil => simp [join?]
  | cons e rest => simp [join?, holds_foldl_and]

/-! ### Proper expressions -/

/-- A **proper** condition: a truth value or unknown in a row, and so is every operand of
its logical operations. -/
structure Proper (I : Interpretation) (row : Row) (e : Expr) : Prop where
  /-- Its operands are. -/
  typed : e.Typed I row
  /-- So is the expression itself. -/
  logical : (e.eval I row).isLogical

/-- Constants are proper. -/
theorem proper_boolean (b : Bool) : (boolean b).Proper I row := by
  constructor
  · simp [boolean, Typed]
  · simp [boolean, eval, Literal.value, Value.isLogical]

/-- Parentheses keep an expression proper. -/
theorem Proper.nested {e : Expr} (h : e.Proper I row) : (nested e).Proper I row := by
  constructor
  · rw [Typed]; exact h.typed
  · rw [eval]; exact h.logical

/-- Conjunctions and disjunctions of proper expressions are proper. -/
theorem Proper.junction {op : BinaryOp} (hop : op = .and ∨ op = .or) {left right : Expr}
    (hl : left.Proper I row) (hr : right.Proper I row) : (binary left op right).Proper I row := by
  rcases hop with rfl | rfl
  all_goals
    constructor
    · rw [Typed]; exact ⟨⟨hl.typed, hl.logical⟩, hr.typed, hr.logical⟩
    · rw [eval]; exact Value.isLogical_junction _ _ _

/-- Proper expressions may be joined. -/
theorem Proper.join? {op : BinaryOp} (hop : op = .and ∨ op = .or) {es : List Expr}
    (h : ∀ e ∈ es, e.Proper I row) : ∀ e ∈ join? op es, e.Proper I row :=
  join?_induct (fun e he => (h e he).nested) fun _ hl r hr => hl.junction hop (h r hr).nested

end Expr

/-! ### Conditions -/

/-- A denial is `TRUE` exactly where the expression is not. -/
theorem holds_denial {e : Expr} (h : e.Proper E.interpretation row) :
    (denial e).holds E.interpretation row = !e.holds E.interpretation row := by
  have hcoalesce : "COALESCE".equalsIgnoringCase "COALESCE" = true := by decide
  have heval : (denial e).eval E.interpretation row =
      (Value.firstPresent [e.eval E.interpretation row, .boolean false]).denied := by
    simp [denial, Expr.negate, Expr.orFalse, Expr.boolean, Expr.eval, Expr.evalAll,
      Interpretation.apply, hcoalesce, Literal.value]
  unfold Expr.holds
  rw [heval]
  rcases Value.isLogical_iff.mp h.logical with hv | hv | hv <;> rw [hv] <;> rfl

/-- A denial of a proper expression is proper. -/
theorem Expr.Proper.denial {I : Interpretation} {e : Expr} (h : e.Proper I row) :
    (denial e).Proper I row := by
  have hcoalesce : "COALESCE".equalsIgnoringCase "COALESCE" = true := by decide
  constructor
  · refine ⟨⟨h.typed, (proper_boolean false).typed, trivial⟩, ?_⟩
    rw [eval, orFalse, eval, Interpretation.apply, if_pos hcoalesce, evalAll, evalAll, evalAll]
    rcases Value.isLogical_iff.mp h.logical with hv | hv | hv <;> rw [hv] <;> rfl
  · rw [Sql.denial, negate, eval]
    exact Value.isLogical_denied _

/-- The value of a constant is the value that it was made of. -/
@[simp] theorem value_literalOf (v : Value) : (literalOf v).value = v := by
  cases v <;> rfl

/-- An operation that is not logical is what the store makes of its operands. -/
theorem eval_compare {op : BinaryOp} (hop : op ≠ .and ∧ op ≠ .or) (left right : Expr) :
    (Expr.binary left op right).eval E.interpretation row =
      E.compare op (left.eval E.interpretation row) (right.eval E.interpretation row) := by
  cases op <;> simp_all [Expr.eval]

/-- Such an operation is proper. -/
theorem proper_compare {op : BinaryOp} (hop : op ≠ .and ∧ op ≠ .or) (left right : Expr) :
    (Expr.binary left op right).Proper E.interpretation row := by
  constructor
  · cases op <;> simp_all [Expr.Typed]
  · rw [eval_compare hop, Engine.compare]
    split <;> rfl

/-- A **filter** is proper. -/
theorem Expr.IsFilter.proper {e : Expr} (h : e.IsFilter) : e.Proper E.interpretation row := by
  induction h with
  | boolean b => exact proper_boolean b
  | isNull f => exact ⟨trivial, by simp [Expr.eval, Value.isLogical]⟩
  | test f hop _ => exact proper_compare hop _ _
  | finds term f => exact proper_compare (by decide) _ _
  | join hop _ he ih => exact Proper.join? hop ih _ he
  | denial _ ih => exact ih.denial

/-- A test of a column is `TRUE` if both values are there and compare. -/
theorem holds_test {op : BinaryOp} (hop : op ≠ .and ∧ op ≠ .or) (f : Field) (v : Value) :
    (Expr.binary (columnOf f) op (.literal (literalOf v))).holds E.interpretation row =
      (!(row.valueOf f).isNull && !v.isNull && E.test op (row.valueOf f) v) := by
  have hcolumn : (columnOf f).eval E.interpretation row = row.valueOf f := by
    rw [columnOf, Expr.eval, Row.valueOf]
  unfold Expr.holds
  rw [eval_compare hop, hcolumn, Expr.eval, value_literalOf, Engine.compare]
  cases (row.valueOf f).isNull <;> cases v.isNull <;> simp

/-- A column is one of some alternatives exactly where the field is. -/
theorem holds_equals {e : Entity} (hrow : e.FilledBy row.valueOf) {f : Field} (hf : f ∈ e.fields)
    (v : Value) :
    (equals f v).holds E.interpretation row = E.tests.isOne (row.valueOf f) v := by
  have hother : ∀ w : Value, w.isNull = false →
      (Expr.binary (columnOf f) .eq (.literal (literalOf w))).holds E.interpretation row =
        (!(row.valueOf f).isNull && E.test .eq (row.valueOf f) w) := by
    intro w hw
    rw [holds_test (by decide), hw]
    simp
  cases v with
  | null =>
      have hisOne : E.tests.isOne (row.valueOf f) .null = (row.valueOf f).isNull := rfl
      simp only [equals]
      split
      · rw [hisOne]
        simp [Expr.holds, Expr.eval, columnOf, Row.valueOf]
      · next hnullable =>
        have hthere : (row.valueOf f).isNull = false :=
          hrow f hf (Bool.eq_false_iff.mpr hnullable)
        rw [hisOne, hthere, Expr.holds_boolean]
  | _ => exact hother _ rfl

/-- A column is one of some alternatives exactly where the field is. -/
theorem holds_equalsAny {e : Entity} (hrow : e.FilledBy row.valueOf) {f : Field} (hf : f ∈ e.fields)
    (vs : List Value) :
    (equalsAny f vs).holds E.interpretation row = vs.any (E.tests.isOne (row.valueOf f)) := by
  rw [equalsAny, Expr.holds_join_or, List.any_map]
  congr 1
  funext v
  exact holds_equals hrow hf v

/-! ### Every condition -/

/-- The comparison that stands for an operator is the one by which the store tests it. -/
theorem tests_compare {op : Operator} {cmp : BinaryOp} (h : comparison? op = some cmp)
    (v w : Value) : E.tests.compare op v w = E.test cmp v w := by
  cases op <;> cases h <;> rfl

/-- A condition is `TRUE` **exactly where it holds**. -/
theorem holds_condition {e : Entity} (hrow : e.FilledBy row.valueOf) {c : Condition}
    (hc : c.Sound e) {ex : Expr} (h : condition? c = some ex) :
    ex.holds E.interpretation row = c.holds E.tests row.valueOf := by
  obtain ⟨f, op, operand, source⟩ := c
  have hsuits := hc.suits
  have hf : f ∈ e.fields := hc.field_mem
  cases operand with
  | values vs =>
      have hany := holds_equalsAny (E := E) hrow hf vs
      obtain ⟨rfl | rfl, -, hvs⟩ := hsuits
      · obtain rfl := Option.some.inj h
        exact hany
      · obtain rfl := Option.some.inj h
        rw [holds_denial (isFilter_equalsAny hvs).proper, hany]
        rfl
  | bound v =>
      have hv : v.isNull = false := by
        obtain ⟨-, htype, -⟩ := hsuits
        cases v <;> first | cases htype | rfl
      rw [condition?_bound] at h
      obtain ⟨cmp, hcmp, rfl⟩ := Option.map_eq_some_iff.mp h
      rw [Condition.holds_bound hsuits.1, holds_test (comparison?_ne hcmp), hv,
        tests_compare hcmp, Bool.not_false, Bool.and_true]
  | pattern p =>
      have hop : op.isPattern := hsuits.1
      have hfits : (fits f p).holds E.interpretation row =
          (!(row.valueOf f).isNull && E.tests.fits (row.valueOf f) p) := by
        rw [fits_eq, holds_test (by decide)]
        simp [Value.isNull, Engine.tests]
      have hproper : (fits f p).Proper E.interpretation row := proper_compare (by decide) _ _
      rw [condition?_pattern hop] at h
      obtain rfl := Option.some.inj h
      rw [Condition.holds_pattern hop]
      split
      · next hneg => rw [holds_denial hproper, hfits, hneg, Bool.bne_true]
      · next hneg => rw [hfits, Bool.eq_false_iff.mpr hneg, Bool.bne_false]

end Listing.Sql
