import Listing.Proofs.Results
import Listing.Proofs.Sql.ReadBack

/-!
# Lists in Statements

A test of whether a value is one of a list cannot be written if the list is empty. A statement
is **filled** (`Statement.isFilled`) if there is something in each of its lists. The statements
for the number of records and for a page have no list at all, and a statement for related
records is filled if there is a value that they are looked for by. The standard passes keep
it so.

## Main results

* `Expr.Clear.isFilled` — every clear expression is filled.
* `isFilled_countStatement`, `isFilled_pageStatement` — the statements of a sound model are
  filled when they are sent.
* `isFilled_includeStatement` — so is a statement for related records that are looked for.
-/

namespace Listing.Sql

/-! ### Filled statements -/

namespace Expr

mutual

/-- Whether an expression is **filled**: none of its lists is empty. -/
def isFilled : Expr → Bool
  | column _ | literal _ | wildcard => true
  | binary left _ right => left.isFilled && right.isFilled
  | not e | isNull e _ | cast e _ | nested e => e.isFilled
  | call _ args => areAllFilled args
  | inList e items _ => e.isFilled && !items.isEmpty && areAllFilled items

/-- Whether some expressions are filled. -/
def areAllFilled : List Expr → Bool
  | [] => true
  | e :: rest => e.isFilled && areAllFilled rest

end

end Expr

/-- Whether a selected item is filled. -/
def Item.isFilled : Item → Bool
  | wildcard => true
  | expr e _ => e.isFilled

/-- Whether a statement is **filled**. -/
def Statement.isFilled (s : Statement) : Bool :=
  s.items.all Item.isFilled && s.filter.all Expr.isFilled && s.order.all (·.expr.isFilled) &&
    s.limit.all Expr.isFilled && s.offset.all Expr.isFilled

namespace Expr

mutual

/-- A **clear** expression is filled. -/
theorem Clear.isFilled : ∀ {e : Expr}, e.Clear → e.isFilled
  | column _, _ => rfl
  | literal _, _ => rfl
  | binary _ _ _, h => by rw [Expr.isFilled, h.1.1.isFilled, h.2.1.isFilled]; rfl
  | not e, h => by rw [Expr.isFilled, h.1.isFilled]
  | nested e, h => by rw [Expr.isFilled, Clear.isFilled (e := e) h]
  | isNull e _, h => by rw [Expr.isFilled, h.1.isFilled]
  | call _ args, ⟨_, hargs⟩ => by
    rw [Expr.isFilled]
    rcases hargs with rfl | hargs
    · rfl
    · exact hargs.areAllFilled
  | inList e items _, ⟨⟨he, _⟩, hne, hitems⟩ => by
    rw [Expr.isFilled, he.isFilled, hitems.areAllFilled, List.isEmpty_eq_false_iff.mpr hne]
    rfl
  | cast e _, h => by rw [Expr.isFilled, h.1.isFilled]

/-- Clear expressions are filled. -/
theorem AllClear.areAllFilled : ∀ {es : List Expr}, AllClear es → areAllFilled es
  | [], _ => rfl
  | _ :: _, ⟨he, hes⟩ => by rw [Expr.areAllFilled, he.isFilled, hes.areAllFilled]; rfl

end

/-- Constants are filled. -/
theorem areAllFilled_literals (ls : List Literal) : areAllFilled (ls.map literal) := by
  induction ls with
  | nil => rfl
  | cons l rest ih => rw [List.map_cons, areAllFilled, ih]; rfl

end Expr

/-! ### The statements that are sent -/

/-- A field that is selected has no list. -/
theorem isFilled_itemOf (f : Field) : (itemOf f).isFilled := by
  unfold itemOf
  split <;> rfl

/-- The keys of an order have no list. -/
theorem isFilled_orderOf (m : Model) : ∀ k ∈ orderOf m, k.expr.isFilled :=
  fun k hk => (clear_orderOf m k hk).isFilled

/-- A statement is filled when it is sent if its filter is built as filters are and nothing else
has an empty list. -/
theorem isFilled_simplify {s : Statement} (hfilter : ∀ e ∈ s.filter, e.IsFilter)
    (h : ({ s with filter := none } : Statement).isFilled) :
    (s.simplify Pass.standard).isFilled := by
  have hsimplified : (relaxFilter (foldFilter s.filter)).all Expr.isFilled := by
    rw [Option.all_eq_true]
    exact fun e he => (clear_simplified hfilter e he).isFilled
  show Statement.isFilled { s with filter := relaxFilter (foldFilter s.filter) }
  simp only [Statement.isFilled, Bool.and_eq_true] at h ⊢
  exact ⟨⟨⟨⟨h.1.1.1.1, hsimplified⟩, h.1.1.2⟩, h.1.2⟩, h.2⟩

/-- The statement for the **number** of records of a sound model is filled when it is sent. -/
theorem isFilled_countStatement {m : Model} (hm : m.Sound) {s : Statement}
    (h : countStatement m = .ok s) : (s.simplify Pass.standard).isFilled := by
  obtain ⟨filter, hfilter, rfl⟩ := map_eq_ok.mp h
  exact isFilled_simplify (isFilter_filterOf hm hfilter) rfl

/-- The statement for a **page** of a sound model is filled when it is sent. -/
theorem isFilled_pageStatement {m : Model} (hm : m.Sound) {s : Statement}
    (h : pageStatement m = .ok s) : (s.simplify Pass.standard).isFilled := by
  obtain ⟨filter, hfilter, rfl⟩ := map_eq_ok.mp h
  refine isFilled_simplify (isFilter_filterOf hm hfilter) ?_
  have hitems : ((pageFields m).map itemOf).all Item.isFilled := by
    simpa using fun f _ => isFilled_itemOf f
  have horder : (orderOf m).all (·.expr.isFilled) := by
    simpa using isFilled_orderOf m
  simp only [Statement.isFilled, hitems, horder]
  rfl

/-- The statement for **related records** is filled when it is sent if there are values that they
are looked for by. -/
theorem isFilled_includeStatement (target : Entity) (key : Field) {keys : List Literal}
    (h : keys ≠ []) :
    ((includeStatement target key keys).simplify Pass.standard).isFilled := by
  -- nothing in the only condition can be simplified
  show (includeStatement target key keys).isFilled
  have hitems : (target.fields.map itemOf).all Item.isFilled := by
    simpa using fun f _ => isFilled_itemOf f
  have hlist : (Expr.inList (columnOf key) (keys.map .literal) false).isFilled := by
    simp [Expr.isFilled, columnOf, h, Expr.areAllFilled_literals]
  simp only [Statement.isFilled, includeStatement, hitems, Option.all_some, hlist]
  rfl

end Listing.Sql
