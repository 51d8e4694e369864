import Listing.Proofs.Sql.Grouping
import Listing.Proofs.Sql.Unambiguous

/-!
# Which Parentheses Group Something

The pass over parentheses drops them around what it takes to hold together by itself, wherever it
stands. A test for `NULL` is among that, but it does not hold its operand as tightly as a
comparison: in `"a" = ("b" IS NULL)` the parentheses group the test, and without them the
comparison is tested.

These are the only ones that are dropped wrongly. An expression that is read as it was meant is so
after the pass if it is **guarded** (`Expr.Guarded`), and only then.

## Main results

* `readExpr_text_iff` — the text of an expression is read as it was meant if and only if the
  expression is clear.
* `Expr.Clear.clear_relax_iff` — a clear expression stays clear without the parentheses that are
  dropped if and only if it is guarded.
* `reads_dropped_iff` — so the filter of a statement is read as before behind the pass if and only
  if it is guarded.
-/

namespace Listing.Sql

/-! ### Reading a text -/

/-- The expression that is **read** in a text; no answer if there is none. -/
def readExpr (text : String) : Option Expr := (lex text.toList).bind parse

/-- The text of a plain expression is read by its tokens. -/
theorem readExpr_text {e : Expr} (h : e.isPlain) : readExpr e.text = parse e.tokens := by
  have hlex : lex e.text.toList = some e.tokens := (Expr.reads_text e h).lex_eq .nil
  rw [readExpr, hlex, Option.bind_some]

/-- The text of a plain expression is read as it was meant if and only if the expression is
**clear**. -/
theorem readExpr_text_iff {e : Expr} (h : e.isPlain) :
    readExpr e.text = some e.bare ↔ e.Clear := by
  rw [readExpr_text h, Expr.parse_tokens_iff h]

/-! ### Only guarded expressions stay clear -/

namespace Expr

/-- What is clear is no asterisk when its parentheses are dropped. -/
theorem relax_ne_wildcard : ∀ {e : Expr}, e.Clear → e.relax ≠ wildcard
  | nested e, h => by
    rw [relax]
    split
    · exact relax_ne_wildcard (e := e) h
    · simp
  | binary _ _ _, _ | not _, _ | call _ _, _ => by
    rw [relax]
    simp
  | column _, _ | literal _, _ | inList _ _ _, _ | isNull _ _, _ | cast _ _, _ => by
    rw [relax] <;> simp

/-- Nor are several. -/
theorem relaxAll_ne_wildcard {es : List Expr} (h : AllClear es) : relaxAll es ≠ [wildcard] := by
  cases es with
  | nil => simp [relaxAll]
  | cons e es =>
    rw [relaxAll]
    exact fun heq => relax_ne_wildcard h.1 (List.cons.inj heq).1

mutual

/-- A clear expression is **guarded** if it is clear without the parentheses that are dropped. -/
theorem Clear.guarded : ∀ {e : Expr}, e.Clear → e.relax.Clear → e.Guarded
  | binary left op right, ⟨⟨hl, _⟩, hr, _⟩, h => by
    rw [Expr.relax] at h
    obtain ⟨⟨hl', -⟩, hr', hlevel⟩ := h
    refine ⟨hl.guarded hl', hr.guarded hr', ?_⟩
    cases htest : right.beginsWithTest with
    | false => exact .inr rfl
    | true => exact .inl (hlevel.trans_le (level_relax_le htest))
  | not e, ⟨he, _⟩, h => by
    rw [Expr.relax] at h
    exact he.guarded h.1
  | nested e, he, h => by
    have h' : e.relax.Clear := by
      rw [Expr.relax] at h
      split at h
      · exact h
      · exact h
    exact Clear.guarded (e := e) he h'
  | call name args, ⟨_, hargs⟩, h => by
    rw [Expr.relax] at h
    obtain ⟨-, hargs'⟩ := h
    rcases hargs with rfl | hargs
    · exact ⟨trivial, trivial⟩
    · exact hargs.guarded (hargs'.resolve_left (relaxAll_ne_wildcard hargs))
  | column _, _, _ | literal _, _, _ | inList _ _ _, _, _ | isNull _ _, _, _ | cast _ _, _, _ =>
    trivial

/-- So are several. -/
theorem AllClear.guarded : ∀ {es : List Expr}, AllClear es → AllClear (relaxAll es) →
    AllGuarded es
  | [], _, _ => trivial
  | _ :: _, ⟨he, hes⟩, ⟨he', hes'⟩ => ⟨he.guarded he', hes.guarded hes'⟩

end

/-- A clear expression **stays clear** without the parentheses that are dropped if and only if it is
guarded. -/
theorem Clear.clear_relax_iff {e : Expr} (h : e.Clear) : e.relax.Clear ↔ e.Guarded :=
  ⟨h.guarded, fun hguard => (h.relax hguard).clear⟩

/-- The parentheses around a whole expression group nothing. -/
theorem clear_unwrap_iff (e : Expr) : e.unwrap.Clear ↔ e.Clear := by
  cases e <;> exact Iff.rfl

mutual

/-- What is plain stays so without parentheses. -/
theorem isPlain_relax : ∀ e : Expr, e.relax.isPlain = e.isPlain
  | binary left op right => by
    rw [Expr.relax, isPlain, isPlain, isPlain_relax left, isPlain_relax right]
  | not e => by rw [Expr.relax, isPlain, isPlain, isPlain_relax e]
  | nested e => by
    rw [Expr.relax, isPlain]
    split
    · exact isPlain_relax e
    · rw [isPlain, isPlain_relax e]
  | call name args => by rw [Expr.relax, isPlain, isPlain, areAllPlain_relaxAll args]
  | column _ | literal _ | inList _ _ _ | isNull _ _ | cast _ _ | wildcard => by
    rw [Expr.relax] <;> simp

/-- So do several expressions. -/
theorem areAllPlain_relaxAll : ∀ es : List Expr, areAllPlain (relaxAll es) = areAllPlain es
  | [] => rfl
  | e :: es => by
    rw [relaxAll, areAllPlain, areAllPlain, isPlain_relax e, areAllPlain_relaxAll es]

end

/-- Nor do the parentheses around a whole expression matter. -/
theorem isPlain_unwrap (e : Expr) : e.unwrap.isPlain = e.isPlain := by
  cases e <;> rw [unwrap] <;> simp [isPlain]

end Expr

/-! ### The pass over a filter -/

/-- A filter that is read as it was meant **is read as before** behind the pass that drops
parentheses if and only if it is guarded. -/
theorem reads_dropped_iff {s : Statement} {e : Expr} (hfilter : s.filter = some e)
    (hplain : e.isPlain) (hread : readExpr e.text = some e.bare) :
    ((Pass.dropParentheses.run s).filter.bind fun e' => readExpr e'.text) = some e.bare ↔
      e.Guarded := by
  have hclear : e.Clear := (readExpr_text_iff hplain).mp hread
  have hplain' : e.relax.unwrap.isPlain := by
    rw [Expr.isPlain_unwrap, Expr.isPlain_relax, hplain]
  have hbare : e.relax.unwrap.bare = e.bare := (Expr.bare_unwrap _).trans (Expr.bare_relax e)
  have hrun : (Pass.dropParentheses.run s).filter = some e.relax.unwrap := by
    rw [Pass.run, relaxFilter, hfilter]
    rfl
  rw [hrun, Option.bind_some, ← hbare, readExpr_text_iff hplain', Expr.clear_unwrap_iff,
    hclear.clear_relax_iff]

/-- A junction of a test and a comparison is read as before. -/
theorem reads_dropped_junction :
    let e : Expr := .binary (.nested (.isNull (.column "note") false)) .or
      (.nested (.binary (.column "rank") .gt (.nested (.literal (.integer 5)))))
    let s : Statement := ⟨[.wildcard], some ⟨none, "orders"⟩, some e, [], none, none⟩
    (Pass.dropParentheses.run s).filter = some (.binary (.isNull (.column "note") false) .or
        (.nested (.binary (.column "rank") .gt (.literal (.integer 5))))) ∧
      ((Pass.dropParentheses.run s).filter.bind fun e' => readExpr e'.text) = some e.bare := by
  intro e s
  have hplain : e.isPlain := rfl
  have hread : readExpr e.text = some e.bare := (readExpr_text hplain).trans rfl
  have hguard : e.Guarded := ⟨trivial, ⟨trivial, trivial, .inr rfl⟩, .inl (by decide)⟩
  exact ⟨rfl, (reads_dropped_iff rfl hplain hread).mpr hguard⟩

/-- The test in a **comparison** is read as a test of the comparison. -/
theorem reads_dropped_comparison :
    let e : Expr := .binary (.column "a") .eq (.nested (.isNull (.column "b") false))
    let s : Statement := ⟨[.wildcard], some ⟨none, "orders"⟩, some e, [], none, none⟩
    readExpr e.text = some e.bare ∧
      ((Pass.dropParentheses.run s).filter.bind fun e' => readExpr e'.text) =
        some (.isNull (.binary (.column "a") .eq (.column "b")) false) ∧
      ((Pass.dropParentheses.run s).filter.bind fun e' => readExpr e'.text) ≠ some e.bare := by
  intro e s
  have hread : readExpr e.text = some e.bare := (readExpr_text rfl).trans rfl
  have hdropped : ((Pass.dropParentheses.run s).filter.bind fun e' => readExpr e'.text) =
      some (.isNull (.binary (.column "a") .eq (.column "b")) false) :=
    (readExpr_text (e := .binary (.column "a") .eq (.isNull (.column "b") false)) rfl).trans rfl
  refine ⟨hread, hdropped, ?_⟩
  rw [hdropped]
  intro h
  cases h

end Listing.Sql
