import Listing.Query.Model

/-!
# What a Query Model Asks For

The **reference meaning** of a model, apart from any store: which records its conditions
and its texts to find select. A record is given by the value of each field, where
`Value.null` stands for no value, and the tests on values that are there (`Tests`) are
left open. The meaning is two-valued: a condition on a field without a value either holds
or does not.

## Main definitions

* `Condition.holds` — whether a condition holds of a record. Equality with no value holds
  of fields without one, a comparison or a pattern never does, and a negated test is the
  exact denial of the plain one.
* `Entity.FilledBy` — a record lacks values of nullable fields only.
* `Model.selects` — the conditions of a model: all of the one group, if it has any, or
  some of the other; without conditions every record is selected.
* `Model.finds` — every text to find is in some searchable field, if there are any.
* `Model.meets` — both.
-/

namespace Listing

/-- The **tests** that a store applies to values that are there. -/
structure Tests where
  /-- Whether the value of a field is the one asked for. -/
  equal : Value → Value → Bool
  /-- Whether the value of a field compares with a bound as the operator says. -/
  compare : Operator → Value → Value → Bool
  /-- Whether the value of a field fits a pattern. -/
  fits : Value → Pattern → Bool
  /-- Whether the value of a field contains a text. -/
  contains : Value → String → Bool

/-- Whether the value of a field is an alternative, which may be no value. -/
def Tests.isOne (t : Tests) (v : Value) : Value → Bool
  | .null => v.isNull
  | w => !v.isNull && t.equal v w

/-- Whether a **condition** holds of a record. -/
def Condition.holds (t : Tests) (valueOf : Field → Value) (c : Condition) : Bool :=
  let v := valueOf c.field
  match c.operator, c.operand with
  | .equal, .values ws => ws.any (t.isOne v)
  | .notEqual, .values ws => !ws.any (t.isOne v)
  | .greaterThan, .bound w | .greaterOrEqual, .bound w | .lessThan, .bound w
  | .lessOrEqual, .bound w => !v.isNull && t.compare c.operator v w
  | .like, .pattern p | .contains, .pattern p => !v.isNull && t.fits v p
  | .notLike, .pattern p | .notContains, .pattern p => !(!v.isNull && t.fits v p)
  | _, _ => false

/-- A comparison holds of a field with a value that compares with the bound. -/
theorem Condition.holds_bound {op : Operator} (hop : op.isComparison) (t : Tests)
    (valueOf : Field → Value) (f : Field) (w : Value) (source : String) :
    Condition.holds t valueOf ⟨f, op, .bound w, source⟩ =
      (!(valueOf f).isNull && t.compare op (valueOf f) w) := by
  cases op <;> first | rfl | cases hop

/-- A pattern holds of a field with a value that fits, and its denial of all others. -/
theorem Condition.holds_pattern {op : Operator} (hop : op.isPattern) (t : Tests)
    (valueOf : Field → Value) (f : Field) (p : Pattern) (source : String) :
    Condition.holds t valueOf ⟨f, op, .pattern p, source⟩ =
      ((!(valueOf f).isNull && t.fits (valueOf f) p) != op.isNegated) := by
  cases op <;> first | (cases hop; done) | simp [holds, Operator.isNegated]

/-- A record **fills** an entity if only nullable fields have no value. -/
def Entity.FilledBy (e : Entity) (valueOf : Field → Value) : Prop :=
  ∀ f ∈ e.fields, f.nullable = false → (valueOf f).isNull = false

namespace Model

/-- Whether the **conditions** of a model select a record. -/
def selects (t : Tests) (valueOf : Field → Value) (m : Model) : Bool :=
  (m.allConditions.isEmpty && m.anyConditions.isEmpty) ||
    (!m.allConditions.isEmpty && m.allConditions.all (·.holds t valueOf)) ||
    m.anyConditions.any (·.holds t valueOf)

/-- Whether every **text** to find is in some searchable field; without searchable fields
the texts do not count. -/
def finds (t : Tests) (valueOf : Field → Value) (m : Model) : Bool :=
  m.terms.all fun term =>
    m.entity.searchable.isEmpty ||
      m.entity.searchable.any fun f => !(valueOf f).isNull && t.contains (valueOf f) term

/-- Whether a record is one that a model **asks for**. -/
def meets (t : Tests) (valueOf : Field → Value) (m : Model) : Bool :=
  m.selects t valueOf && m.finds t valueOf

end Model

/-! ### Conditions that are translated one by one -/

/-- If every item of a list is translated, and translated into what has the same truth
value, then all of the translations are true, or some of them, or none are there, exactly
as for the items. -/
theorem filterMap_of_forall {α β : Type} {f : α → Option β} {p : β → Bool} {q : α → Bool}
    {items : List α} (h : ∀ a ∈ items, ∃ b, f a = some b ∧ p b = q a) :
    (items.filterMap f).all p = items.all q ∧ (items.filterMap f).any p = items.any q ∧
      (items.filterMap f).isEmpty = items.isEmpty := by
  induction items with
  | nil => exact ⟨rfl, rfl, rfl⟩
  | cons a rest ih =>
      obtain ⟨b, hb, hpq⟩ := h a (by simp)
      obtain ⟨hall, hany, -⟩ := ih fun a' ha' => h a' (by simp [ha'])
      rw [List.filterMap_cons_some hb, List.all_cons, List.any_cons, hpq, hall, hany]
      exact ⟨rfl, rfl, rfl⟩

/-- If every item of a list is translated, nothing is left out. -/
theorem filter_isNone_of_forall {α β : Type} {f : α → Option β} {items : List α}
    (h : ∀ a ∈ items, ∃ b, f a = some b) : items.filter (fun a => (f a).isNone) = [] := by
  rw [List.filter_eq_nil_iff]
  intro a ha
  obtain ⟨b, hb⟩ := h a ha
  simp [hb]

/-- If every item of a list is translated, there is a translation unless the list is empty. -/
theorem filterMap_eq_nil_of_forall {α β : Type} {f : α → Option β} {items : List α}
    (h : ∀ a ∈ items, ∃ b, f a = some b) : items.filterMap f = [] ↔ items = [] := by
  constructor
  · intro hempty
    rw [List.eq_nil_iff_forall_not_mem]
    intro a ha
    obtain ⟨b, hb⟩ := h a ha
    rw [List.filterMap_eq_nil_iff.mp hempty a ha] at hb
    cases hb
  · rintro rfl
    rfl

/-- Tests that agree on the items of a list are passed by some item of it or by none. -/
theorem any_congr_of_mem {α : Type} {p q : α → Bool} {items : List α}
    (h : ∀ a ∈ items, p a = q a) : items.any p = items.any q := by
  induction items with
  | nil => rfl
  | cons a rest ih =>
      have ih' := ih fun a' ha' => h a' (by simp [ha'])
      rw [List.any_cons, List.any_cons, h a (by simp), ih']

end Listing
