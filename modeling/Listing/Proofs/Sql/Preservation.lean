import Listing.Proofs.Sql.Semantics

/-!
# Simplifying Keeps the Meaning

The standard passes change the text of a filter but neither the value of what they keep
nor the rows that the filter keeps. Dropping parentheses keeps the value of every
expression (`Expr.eval_relax`). Folding known truth values keeps it where conjunctions,
disjunctions and denials are applied to truth values or to what is unknown
(`Expr.eval_fold`); on other operands the logic says nothing, and `x AND TRUE` need not be
`x`.

Passes can be put together in any order and number. Each keeps the rows that a filter keeps, and
keeps the filter such that the next one does (`Expr.Typed.fold`, `Expr.Typed.relax`).

## Main results

* `Expr.eval_fold`, `Expr.eval_relax` — each pass keeps the value of an expression.
* `keeps_simplify` — a statement keeps the same rows before and after any passes.
* `simplify_keeps_selection` — the standard passes change the filter only, and keep its rows.
-/

namespace Listing.Sql

variable {I : Interpretation} {row : Row}

namespace Expr

/-! ### Folding known truth values -/

mutual

/-- Every conjunction, disjunction and denial that folding reaches is applied to truth
values or to what is unknown. -/
def Typed (I : Interpretation) (row : Row) : Expr → Prop
  | binary left .and right | binary left .or right =>
    (left.Typed I row ∧ (left.eval I row).isLogical) ∧
      (right.Typed I row ∧ (right.eval I row).isLogical)
  | not e => e.Typed I row ∧ (e.eval I row).isLogical
  | nested e => e.Typed I row
  | call _ args => AllTyped I row args
  | _ => True

/-- `Typed` for several expressions. -/
def AllTyped (I : Interpretation) (row : Row) : List Expr → Prop
  | [] => True
  | e :: rest => e.Typed I row ∧ AllTyped I row rest

end

/-- What is asked of a junction. -/
theorem typed_junction {op : BinaryOp} (hop : op = .and ∨ op = .or) {left right : Expr} :
    (binary left op right).Typed I row ↔
      (left.Typed I row ∧ (left.eval I row).isLogical) ∧
        (right.Typed I row ∧ (right.eval I row).isLogical) := by
  rcases hop with rfl | rfl <;> rw [Typed]

/-- Of other operations nothing is asked. -/
theorem typed_compare {op : BinaryOp} (hop : ¬ (op = .and ∨ op = .or)) (left right : Expr) :
    (binary left op right).Typed I row := by
  cases op <;> simp_all [Typed]

/-- An expression that is a known truth value has it in every row. -/
theorem eval_of_truth? {e : Expr} {b : Bool} (h : e.truth? = some b) :
    e.eval I row = .boolean b := by
  fun_induction truth? e with
  | case1 c =>
      obtain rfl : c = b := Option.some.inj h
      simp [eval, Literal.value]
  | case2 e ih => rw [eval]; exact ih h
  | case3 e => cases h

/-- A folded junction has the value of the junction of its operands. -/
theorem eval_foldJunction {b : Bool} {op : BinaryOp} {left right : Expr}
    (hop : (binary left op right).eval I row =
      Value.junction b (left.eval I row) (right.eval I row))
    (hl : (left.eval I row).isLogical) (hr : (right.eval I row).isLogical) :
    (foldJunction b op left right).eval I row =
      Value.junction b (left.eval I row) (right.eval I row) := by
  unfold foldJunction
  split
  · next h =>
    rw [eval_of_truth? (e := boolean b) rfl]
    rcases h with h | h <;> rw [eval_of_truth? h] <;> simp
  next h =>
  split
  · next h' =>
    obtain ⟨c, hc⟩ := Option.isSome_iff_exists.mp h'
    obtain rfl : c = !b := by
      rw [hc] at h
      cases b <;> cases c <;> simp_all
    rw [eval_of_truth? hc, Value.junction_neutral_left hr]
  split
  · next h' =>
    obtain ⟨c, hc⟩ := Option.isSome_iff_exists.mp h'
    obtain rfl : c = !b := by
      rw [hc] at h
      cases b <;> cases c <;> simp_all
    rw [eval_of_truth? hc, Value.junction_neutral_right hl]
  · exact hop

/-- A folded denial has the value of the denial. -/
theorem eval_foldNot (e : Expr) : (foldNot e).eval I row = (e.eval I row).denied := by
  unfold foldNot
  split
  · next b h => rw [eval_of_truth? h, eval_of_truth? (e := boolean !b) rfl, Value.denied]
  · rw [eval]

/-- Folded parentheses have the value of what is inside. -/
theorem eval_foldNested (e : Expr) : (foldNested e).eval I row = e.eval I row := by
  unfold foldNested
  split
  · next b h => rw [eval_of_truth? h, eval_of_truth? (e := boolean b) rfl]
  · rw [eval]

/-- A folded function has the value of the function. -/
theorem eval_foldCall (name : String) (args : List Expr) :
    (foldCall name args).eval I row = I.apply name (evalAll I row args) := by
  unfold foldCall
  split
  · next b h =>
    split
    · next hname =>
      obtain ⟨first, hfirst, hb⟩ := Option.bind_eq_some_iff.mp h
      obtain ⟨rest, rfl⟩ := List.head?_eq_some_iff.mp hfirst
      rw [eval_of_truth? (e := boolean b) rfl, evalAll, eval_of_truth? hb,
        Interpretation.apply, if_pos hname]
      rfl
    · rw [eval]
  · rw [eval]

mutual

/-- **Folding keeps the value** of an expression. -/
theorem eval_fold : ∀ e : Expr, e.Typed I row → e.fold.eval I row = e.eval I row
  | binary left .and right, ⟨⟨hl, hl'⟩, hr, hr'⟩ => by
      have il := eval_fold left hl
      have ir := eval_fold right hr
      rw [fold, eval_foldJunction (by rw [eval]) (il ▸ hl') (ir ▸ hr'), il, ir, eval]
  | binary left .or right, ⟨⟨hl, hl'⟩, hr, hr'⟩ => by
      have il := eval_fold left hl
      have ir := eval_fold right hr
      rw [fold, eval_foldJunction (by rw [eval]) (il ▸ hl') (ir ▸ hr'), il, ir, eval]
  | not e, ⟨h, _⟩ => by rw [fold, eval_foldNot, eval_fold e h, eval]
  | nested e, h => by rw [fold, eval_foldNested, eval_fold e h, eval]
  | call name args, h => by rw [fold, eval_foldCall, evalAll_foldAll args h, eval]
  | column _, _ | literal _, _ | inList _ _ _, _ | isNull _ _, _ | cast _ _, _
  | wildcard, _ => by rw [fold] <;> simp
  | binary _ .eq _, _ | binary _ .lt _, _ | binary _ .le _, _ | binary _ .gt _, _
  | binary _ .ge _, _ | binary _ .fits _, _ => by rw [fold] <;> simp

/-- Folding keeps the values of several expressions. -/
theorem evalAll_foldAll :
    ∀ es : List Expr, AllTyped I row es → evalAll I row (foldAll es) = evalAll I row es
  | [], _ => by rw [foldAll]
  | e :: rest, ⟨h, hrest⟩ => by
      rw [foldAll, evalAll, evalAll, eval_fold e h, evalAll_foldAll rest hrest]

end

/-- A truth value asks for nothing. -/
theorem typed_boolean (b : Bool) : (boolean b).Typed I row := trivial

mutual

/-- What folding leaves can be folded again. -/
theorem Typed.fold : ∀ {e : Expr}, e.Typed I row → e.fold.Typed I row
  | binary left op right, h => by
      by_cases hop : op = .and ∨ op = .or
      · obtain ⟨⟨hl, hl'⟩, hr, hr'⟩ := (typed_junction hop).mp h
        obtain ⟨b, hfold⟩ := exists_fold_junction hop left right
        rw [hfold]
        rcases foldJunction_cases b op left.fold right.fold with h' | h' | h' | h' <;> rw [h']
        · exact typed_boolean b
        · exact hr.fold
        · exact hl.fold
        · rw [← eval_fold left hl] at hl'
          rw [← eval_fold right hr] at hr'
          exact (typed_junction hop).mpr ⟨⟨hl.fold, hl'⟩, hr.fold, hr'⟩
      · rw [fold_compare hop]
        exact h
  | not e, ⟨h, h'⟩ => by
      rw [Expr.fold, foldNot]
      split
      · exact typed_boolean _
      · rw [← eval_fold e h] at h'
        exact ⟨h.fold, h'⟩
  | nested e, h => by
      rw [Expr.fold, foldNested]
      split
      · exact typed_boolean _
      · exact Typed.fold (e := e) h
  | call name args, h => by
      have hcall : (call name (foldAll args)).Typed I row := AllTyped.foldAll h
      rw [Expr.fold, foldCall]
      split
      · split
        · exact typed_boolean _
        · exact hcall
      · exact hcall
  | column _, h | literal _, h | inList _ _ _, h | isNull _ _, h | cast _ _, h | wildcard, h => h

/-- So can several expressions. -/
theorem AllTyped.foldAll : ∀ {es : List Expr}, AllTyped I row es → AllTyped I row (foldAll es)
  | [], _ => trivial
  | _ :: _, ⟨h, hrest⟩ => ⟨h.fold, hrest.foldAll⟩

end

/-! ### Dropping parentheses -/

mutual

/-- **Dropping parentheses keeps the value** of an expression. -/
theorem eval_relax : ∀ e : Expr, e.relax.eval I row = e.eval I row
  | nested e => by
      rw [relax, eval]
      split
      · exact eval_relax e
      · rw [eval, eval_relax e]
  | binary left op right => by
      rw [relax]
      cases op <;> rw [eval, eval, eval_relax left, eval_relax right] <;> simp
  | not e => by rw [relax, eval, eval, eval_relax e]
  | call name args => by rw [relax, eval, eval, evalAll_relaxAll args]
  | column _ | literal _ | inList _ _ _ | isNull _ _ | cast _ _ | wildcard => by
      rw [relax] <;> simp

/-- Dropping parentheses keeps the values of several expressions. -/
theorem evalAll_relaxAll : ∀ es : List Expr, evalAll I row (relaxAll es) = evalAll I row es
  | [] => by rw [relaxAll]
  | e :: rest => by rw [relaxAll, evalAll, evalAll, eval_relax e, evalAll_relaxAll rest]

end

/-- The parentheses around a whole expression mean nothing. -/
theorem eval_unwrap (e : Expr) : e.unwrap.eval I row = e.eval I row := by
  unfold unwrap
  split
  · rw [eval]
  · rfl

mutual

/-- What has fewer parentheses can be folded as before. -/
theorem Typed.relax : ∀ {e : Expr}, e.Typed I row → e.relax.Typed I row
  | binary left op right, h => by
      rw [Expr.relax]
      by_cases hop : op = .and ∨ op = .or
      · obtain ⟨⟨hl, hl'⟩, hr, hr'⟩ := (typed_junction hop).mp h
        rw [← eval_relax left] at hl'
        rw [← eval_relax right] at hr'
        exact (typed_junction hop).mpr ⟨⟨hl.relax, hl'⟩, hr.relax, hr'⟩
      · exact typed_compare hop _ _
  | not e, ⟨h, h'⟩ => by
      rw [← eval_relax e] at h'
      exact ⟨h.relax, h'⟩
  | nested e, h => by
      have he := Typed.relax (e := e) h
      rw [Expr.relax]
      split <;> exact he
  | call name args, h => by
      rw [Expr.relax]
      exact AllTyped.relaxAll h
  | column _, h | literal _, h | inList _ _ _, h | isNull _ _, h | cast _ _, h | wildcard, h => h

/-- So can several expressions. -/
theorem AllTyped.relaxAll : ∀ {es : List Expr}, AllTyped I row es → AllTyped I row (relaxAll es)
  | [], _ => trivial
  | _ :: _, ⟨h, hrest⟩ => ⟨h.relax, hrest.relaxAll⟩

end

/-- The parentheses around a whole expression matter as little. -/
theorem Typed.unwrap {e : Expr} (h : e.Typed I row) : e.unwrap.Typed I row := by
  cases e <;> exact h

end Expr

/-! ### Filters -/

/-- Folding keeps the rows that a filter keeps, also where it drops the filter. -/
theorem keeps_foldFilter {filter : Option Expr} (h : ∀ e ∈ filter, e.Typed I row) :
    keeps I row (foldFilter filter) = keeps I row filter := by
  cases filter with
  | none => rfl
  | some e =>
      have he : e.fold.eval I row = e.eval I row := Expr.eval_fold e (h e rfl)
      by_cases ht : e.fold.truth? = some true
      · have htrue : e.fold.eval I row = .boolean true := Expr.eval_of_truth? ht
        simp [foldFilter, keeps, Option.filter, ht, Expr.holds, ← he, htrue]
      · simp [foldFilter, keeps, Option.filter, ht, Expr.holds, he]

/-- Dropping parentheses keeps the rows that a filter keeps. -/
theorem keeps_relaxFilter (filter : Option Expr) :
    keeps I row (relaxFilter filter) = keeps I row filter := by
  cases filter with
  | none => rfl
  | some e => simp [relaxFilter, keeps, Expr.holds, Expr.eval_unwrap, Expr.eval_relax]

/-! ### Passes -/

/-- Each **pass** keeps the rows that a statement keeps. -/
theorem keeps_run (p : Pass) {s : Statement} (h : ∀ e ∈ s.filter, e.Typed I row) :
    keeps I row (p.run s).filter = keeps I row s.filter := by
  cases p with
  | foldConstants => exact keeps_foldFilter h
  | dropParentheses => exact keeps_relaxFilter s.filter

/-- What a pass makes of a filter can go through another one. -/
theorem typed_run (p : Pass) {s : Statement} (h : ∀ e ∈ s.filter, e.Typed I row) :
    ∀ e ∈ (p.run s).filter, e.Typed I row := by
  intro e he
  cases p with
  | foldConstants =>
      obtain ⟨e, hmem, rfl⟩ := Option.map_eq_some_iff.mp (Option.filter_eq_some_iff.mp he).1
      exact (h e hmem).fold
  | dropParentheses =>
      obtain ⟨e, hmem, rfl⟩ := Option.map_eq_some_iff.mp he
      exact (h e hmem).relax.unwrap

/-- **Passes** keep the rows that a statement keeps, whichever they are. -/
theorem keeps_simplify (passes : List Pass) {s : Statement} (h : ∀ e ∈ s.filter, e.Typed I row) :
    keeps I row (s.simplify passes).filter = keeps I row s.filter := by
  induction passes generalizing s with
  | nil => rfl
  | cons p passes ih => exact (ih (typed_run p h)).trans (keeps_run p h)

/-- Passes change nothing but the filter of a statement. -/
theorem simplify_eq (passes : List Pass) (s : Statement) :
    s.simplify passes = { s with filter := (s.simplify passes).filter } := by
  induction passes generalizing s with
  | nil => rfl
  | cons p passes ih =>
      have hp : p.run s = { s with filter := (p.run s).filter } := by cases p <;> rfl
      rw [show s.simplify (p :: passes) = (p.run s).simplify passes from rfl, ih (p.run s), hp]

/-- The **standard passes** keep the rows that a statement selects, whatever its filter is and
also where they drop it, and change nothing else of the statement. -/
theorem simplify_keeps_selection {s : Statement} (h : ∀ e ∈ s.filter, e.Typed I row) :
    keeps I row (s.simplify Pass.standard).filter = keeps I row s.filter ∧
      s.simplify Pass.standard = { s with filter := (s.simplify Pass.standard).filter } :=
  ⟨keeps_simplify Pass.standard h, simplify_eq Pass.standard s⟩

/-! ### An example -/

namespace Unknown

/-- Comparisons of what is missing are unknown, and all others are false. -/
def interpretation : Interpretation where
  compare _ v w := if v.isNull || w.isNull then .null else .boolean false
  call _ _ := .null
  cast _ v := v
  isNull negated v := .boolean (v.isNull != negated)
  inList _ _ _ := .null
  wildcard := .null

/-- A row in which nothing is there. -/
def blank : Row := fun _ => .null

/-- Denies that a paid note is false for sure, beside operands that decide nothing. -/
def filter : Expr :=
  .binary (.nested (.binary (.negate (.orFalse (.binary (.column "note") .eq (.string "paid"))))
      .or (.boolean false)))
    .and (.not (.nested (.call "coalesce" [.nested (.boolean false), .column "paid"])))

/-- All rows of a table that the filter keeps. -/
def statement : Statement := ⟨[], some ⟨none, "invoices"⟩, some filter, [], none, none⟩

/-- The filter is a conjunction of truth values. -/
theorem typed_filter : ∀ e ∈ statement.filter, e.Typed interpretation blank := by
  rintro e ⟨⟩
  simp [filter, Expr.negate, Expr.orFalse, Expr.boolean, Expr.string, Expr.Typed, Expr.AllTyped,
    Expr.eval, Expr.evalAll]
  decide

end Unknown

/-- A row is kept of which a comparison is unknown, and only the denial is left to keep it. -/
theorem simplify_keeps_unknown :
    (Unknown.statement.simplify Pass.standard).filter =
        some (.not (.orFalse (.binary (.column "note") .eq (.string "paid")))) ∧
      keeps Unknown.interpretation Unknown.blank
        (Unknown.statement.simplify Pass.standard).filter = true := by
  refine ⟨by rfl, ?_⟩
  rw [(simplify_keeps_selection Unknown.typed_filter).1]
  rfl

end Listing.Sql
