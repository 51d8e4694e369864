import Listing.Proofs.Query.Building
import Listing.Proofs.Query.Meaning
import Listing.Sql.Compile

/-!
# The Shape of Filters

A filter that a sound model asks for is built in few ways only (`Expr.IsFilter`): from tests of
columns and truth values, which are joined by `AND` or `OR` with parentheses around each, and
denied behind `COALESCE`. What holds of the tests and is kept by joining and by denying holds of
every filter.

## Main results

* `exists_condition?` — a sound condition is not refused.
* `filterOf_eq` — the filter of a sound model is what joins its parts.
* `isFilter_filterParts`, `isFilter_filterOf` — the parts of a filter and the whole filter are
  built as filters are.
-/

namespace Listing.Sql

namespace Expr

/-- There is nothing to join only if there are no expressions. -/
theorem join?_eq_none {op : BinaryOp} {es : List Expr} : join? op es = none ↔ es = [] := by
  cases es <;> simp [join?]

/-- What holds of the first expression in parentheses, and is kept by putting another one in
parentheses behind it, holds of **joined** expressions. -/
theorem join?_induct {op : BinaryOp} {es : List Expr} {P : Expr → Prop}
    (hfirst : ∀ e ∈ es, P (nested e))
    (hnext : ∀ left, P left → ∀ r ∈ es, P (binary left op (nested r))) :
    ∀ e ∈ join? op es, P e := by
  have hfoldl : ∀ (rest : List Expr) (e : Expr), P e → (∀ r ∈ rest, r ∈ es) →
      P (rest.foldl (fun joined r => binary joined op (nested r)) e) := by
    intro rest
    induction rest with
    | nil => exact fun e he _ => he
    | cons r rest ih =>
        intro e he hes
        rw [List.forall_mem_cons] at hes
        exact ih _ (hnext e he r hes.1) hes.2
  cases es with
  | nil => simp [join?]
  | cons e rest =>
      rintro joined ⟨⟩
      exact hfoldl rest _ (hfirst e List.mem_cons_self) fun r hr => List.mem_cons_of_mem e hr

/-- An expression that **filters are built of**. -/
inductive IsFilter : Expr → Prop
  /-- A truth value. -/
  | boolean (b : Bool) : IsFilter (.boolean b)
  /-- Whether a column has no value. -/
  | isNull (f : Field) : IsFilter (.isNull (columnOf f) false)
  /-- A test of a column against a constant; a floating-point number is finite. -/
  | test (f : Field) {op : BinaryOp} {v : Value} (hop : op ≠ .and ∧ op ≠ .or)
    (hv : ∀ x, v = .float x → x.isFinite) :
    IsFilter (.binary (columnOf f) op (.literal (literalOf v)))
  /-- Whether a text is found in a column. -/
  | finds (term : String) (f : Field) : IsFilter (finds term f)
  /-- Filters that are joined. -/
  | join {op : BinaryOp} {es : List Expr} {e : Expr} (hop : op = .and ∨ op = .or)
    (hes : ∀ e ∈ es, IsFilter e) (he : join? op es = some e) : IsFilter e
  /-- A denial. -/
  | denial {e : Expr} (he : IsFilter e) : IsFilter (denial e)

/-- Filters that are joined, or a truth value if there are none. -/
theorem IsFilter.join_getD {op : BinaryOp} (hop : op = .and ∨ op = .or) {es : List Expr}
    (hes : ∀ e ∈ es, e.IsFilter) (b : Bool) : ((join? op es).getD (.boolean b)).IsFilter := by
  cases hjoin : join? op es with
  | none => exact .boolean b
  | some e => exact .join hop hes hjoin

end Expr

/-! ### Conditions -/

/-- A pattern is a test of the column. -/
theorem fits_eq (f : Field) (p : Pattern) :
    fits f p = .binary (columnOf f) .fits (.literal (literalOf (.text (String.ofList p.posix)))) :=
  rfl

/-- The comparison that an operator stands for is not logical. -/
theorem comparison?_ne {op : Operator} {cmp : BinaryOp} (h : comparison? op = some cmp) :
    cmp ≠ .and ∧ cmp ≠ .or := by
  cases op <;> cases h <;> decide

/-- An operator stands for a comparison if it is one. -/
theorem exists_comparison? {op : Operator} (h : op.isComparison) :
    ∃ cmp, comparison? op = some cmp := by
  cases op <;> first | exact ⟨_, rfl⟩ | cases h

/-- A bound goes with the comparisons. -/
theorem condition?_bound (f : Field) (op : Operator) (v : Value) (source : String) :
    condition? ⟨f, op, .bound v, source⟩ =
      (comparison? op).map fun cmp => .binary (columnOf f) cmp (.literal (literalOf v)) := by
  cases op <;> rfl

/-- A pattern goes with the tests of texts. -/
theorem condition?_pattern {op : Operator} (hop : op.isPattern) (f : Field) (p : Pattern)
    (source : String) :
    condition? ⟨f, op, .pattern p, source⟩ =
      some (if op.isNegated then denial (fits f p) else fits f p) := by
  cases op <;> first | rfl | cases hop

/-- A sound condition is not refused. -/
theorem exists_condition? {e : Entity} {c : Condition} (hc : c.Sound e) :
    ∃ ex, condition? c = some ex := by
  obtain ⟨f, op, operand, source⟩ := c
  have hsuits := hc.suits
  cases operand with
  | values vs =>
      obtain ⟨rfl | rfl, -⟩ := hsuits
      · exact ⟨_, rfl⟩
      · exact ⟨_, rfl⟩
  | bound v =>
      obtain ⟨cmp, hcmp⟩ := exists_comparison? hsuits.1
      rw [condition?_bound, hcmp]
      exact ⟨_, rfl⟩
  | pattern p => exact ⟨_, condition?_pattern hsuits.1 f p source⟩

/-- A test of a column for an alternative is built as filters are. -/
theorem isFilter_equals {f : Field} {v : Value} (hv : v = .null ∨ v.IsOf f.type) :
    (equals f v).IsFilter := by
  cases v with
  | null =>
      simp only [equals]
      split
      · exact .isNull f
      · exact .boolean false
  | _ =>
      obtain hnull | ⟨-, hfinite⟩ := hv
      · cases hnull
      · exact .test f (by decide) hfinite

/-- So is a test for some alternatives. -/
theorem isFilter_equalsAny {f : Field} {vs : List Value}
    (hvs : ∀ v ∈ vs, v = .null ∨ v.IsOf f.type) : (equalsAny f vs).IsFilter := by
  refine Expr.IsFilter.join_getD (.inr rfl) ?_ false
  intro e he
  obtain ⟨v, hv, rfl⟩ := List.mem_map.mp he
  exact isFilter_equals (hvs v hv)

/-- A sound **condition** is built as filters are. -/
theorem isFilter_condition {e : Entity} {c : Condition} (hc : c.Sound e) {ex : Expr}
    (h : condition? c = some ex) : ex.IsFilter := by
  obtain ⟨f, op, operand, source⟩ := c
  have hsuits := hc.suits
  cases operand with
  | values vs =>
      obtain ⟨rfl | rfl, -, hvs⟩ := hsuits
      · obtain rfl := Option.some.inj h
        exact isFilter_equalsAny hvs
      · obtain rfl := Option.some.inj h
        exact (isFilter_equalsAny hvs).denial
  | bound v =>
      rw [condition?_bound] at h
      obtain ⟨cmp, hcmp, rfl⟩ := Option.map_eq_some_iff.mp h
      exact .test f (comparison?_ne hcmp) hsuits.2.2
  | pattern p =>
      have hfits : (fits f p).IsFilter := by
        rw [fits_eq]
        exact .test f (by decide) (by simp)
      rw [condition?_pattern hsuits.1] at h
      obtain rfl := Option.some.inj h
      split
      · exact hfits.denial
      · exact hfits

/-! ### Filters -/

/-- Of sound conditions none is refused. -/
theorem mismatches_eq_nil {e : Entity} {cs : List Condition} (h : ∀ c ∈ cs, c.Sound e) :
    mismatches cs = [] := by
  rw [mismatches, filter_isNone_of_forall fun c hc => exists_condition? (h c hc), List.map_nil]

/-- The parts of the filter of a model: its conditions, and each text to find. -/
def filterParts (m : Model) : List Expr :=
  (whereClause? m).toList ++ m.terms.filterMap (termClause? m.entity)

/-- The filter of a sound model is what joins its parts. -/
theorem filterOf_eq {m : Model} (hm : m.Sound) :
    filterOf m = .ok (Expr.join? .and (filterParts m)) := by
  have hnil : mismatches (m.allConditions ++ m.anyConditions) = [] :=
    mismatches_eq_nil fun c hc => hm.condition hc
  rw [filterOf, hnil]
  rfl

/-- The groups of conditions of a sound model are built as filters are. -/
theorem isFilter_whereClause? {m : Model} (hm : m.Sound) : ∀ e ∈ whereClause? m, e.IsFilter := by
  have hgroup : ∀ {op : BinaryOp}, op = .and ∨ op = .or → ∀ kind : GroupKind,
      ((Expr.join? op ((m.conditionsOf kind).filterMap condition?)).getD
        (.boolean false)).IsFilter := by
    intro op hop kind
    refine .join_getD hop ?_ false
    intro ex hex
    obtain ⟨c, hc, hsome⟩ := List.mem_filterMap.mp hex
    exact isFilter_condition (hm.conditions kind c hc) hsome
  intro e he
  simp only [whereClause?] at he
  split at he
  · cases he
  · refine .join (.inr rfl) ?_ he
    intro ex hex
    simp only [List.mem_cons, List.not_mem_nil, or_false] at hex
    rcases hex with rfl | rfl
    · exact hgroup (.inl rfl) .all
    · exact hgroup (.inr rfl) .any

/-- What looks for a text is built as filters are. -/
theorem isFilter_termClause? (e : Entity) (term : String) :
    ∀ ex ∈ termClause? e term, ex.IsFilter := by
  refine fun ex hex => .join (.inr rfl) ?_ hex
  intro ex' hex'
  obtain ⟨f, -, rfl⟩ := List.mem_map.mp hex'
  exact .finds term f

/-- The **parts** of the filter of a sound model are built as filters are. -/
theorem isFilter_filterParts {m : Model} (hm : m.Sound) : ∀ e ∈ filterParts m, e.IsFilter := by
  intro e he
  rcases List.mem_append.mp he with he | he
  · exact isFilter_whereClause? hm e (Option.mem_toList.mp he)
  · obtain ⟨term, -, hterm⟩ := List.mem_filterMap.mp he
    exact isFilter_termClause? m.entity term e hterm

/-- So is the **filter** of a sound model. -/
theorem isFilter_filterOf {m : Model} (hm : m.Sound) {filter : Option Expr}
    (h : filterOf m = .ok filter) : ∀ e ∈ filter, e.IsFilter := by
  rw [filterOf_eq hm] at h
  obtain rfl := Except.ok.inj h
  exact fun e he => .join (.inl rfl) (isFilter_filterParts hm) he

end Listing.Sql
