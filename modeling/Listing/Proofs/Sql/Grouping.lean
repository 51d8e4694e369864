import Listing.Proofs.Sql.Precedence
import Listing.Proofs.Sql.Shape

/-!
# The Grouping of Filters Survives the Passes

The standard passes take operands out of junctions and parentheses off operands, and the text of
a filter has only the parentheses that are left. A clear filter stays clear: what a pass puts in
the place of an expression **can stand for** it, as it holds together wherever the expression
did. Only `IS NULL` loses parentheses that it may need, at the beginning of the right operand of a
comparison; filters are **guarded**, which means that there is no test in such a place.

## Main results

* `Expr.Clear.fold`, `Expr.Clear.relax` — what a pass makes of a clear expression can stand for
  it.
* `Expr.bare_relax` — dropping parentheses only drops parentheses.
* `Expr.IsFilter.regular` — a filter is clear and guarded.
* `clear_simplified` — so the filter is clear after the standard passes.
-/

namespace Listing.Sql

namespace Expr

/-! ### What can stand for what -/

/-- An expression that **can stand for** another one: it holds together at least as well. Behind
`NOT` and beside `AND` and `OR` it does not matter how much better than `IS NULL` it is. -/
structure StandsFor (e' e : Expr) : Prop where
  /-- It is clear. -/
  clear : e'.Clear
  /-- It holds together in front of the same operators, up to `IS NULL`. -/
  level_le : min (Token.Kind.level .is) e.level ≤ e'.level
  /-- It holds together behind the same operators. -/
  bound_le : e.bound ≤ e'.bound

/-- An operator of a junction is not as tight as `IS NULL`, and several of it may stand side by
side. -/
theorem junction_level {op : BinaryOp} (hop : op = .and ∨ op = .or) :
    op.level < Token.Kind.level .is ∧ op.bound = op.level := by
  rcases hop with rfl | rfl <;> decide

/-- Nothing is tighter than what no operator takes apart. -/
theorem bound_le_closed : ∀ e : Expr, e.bound ≤ closedLevel
  | binary _ _ right => (Nat.min_le_right _ _).trans right.bound_le_closed
  | not e => (Nat.min_le_right _ _).trans e.bound_le_closed
  | column _ | literal _ | inList _ _ _ | isNull _ _ | call _ _ | cast _ _ | wildcard
  | nested _ => by
    rw [bound] <;> simp

namespace StandsFor

variable {e e' left left' right right' : Expr} {op : BinaryOp}

/-- A clear expression can stand for itself. -/
theorem refl (h : e.Clear) : e.StandsFor e := ⟨h, Nat.min_le_right _ _, le_rfl⟩

/-- What no operator takes apart can stand for everything. -/
theorem of_closed (h : e'.Clear) (hlevel : e'.level = closedLevel)
    (hbound : e'.bound = closedLevel) : e'.StandsFor e := by
  refine ⟨h, ?_, hbound ▸ e.bound_le_closed⟩
  rw [hlevel]
  exact (Nat.min_le_left _ _).trans (by decide)

/-- A junction of what can stand for its operands can stand for the junction. -/
theorem junction (hop : op = .and ∨ op = .or) (h : (binary left op right).Clear)
    (hl : left'.StandsFor left) (hr : right'.StandsFor right) :
    (binary left' op right').StandsFor (binary left op right) := by
  obtain ⟨hlevel, -⟩ := junction_level hop
  obtain ⟨⟨-, hleft⟩, -, hright⟩ := h
  have hl' := hl.level_le
  have hr' := hr.level_le
  have hbound := hr.bound_le
  refine ⟨⟨⟨hl.clear, hleft.trans hl.bound_le⟩, hr.clear, ?_⟩, ?_, ?_⟩
  · omega
  · simp only [level]
    omega
  · simp only [bound]
    omega

/-- The right operand of a junction can stand for the junction. -/
theorem of_right (hop : op = .and ∨ op = .or) (h : (binary left op right).Clear)
    (hr : right'.StandsFor right) : right'.StandsFor (binary left op right) := by
  obtain ⟨hlevel, -⟩ := junction_level hop
  obtain ⟨-, -, hright⟩ := h
  have hr' := hr.level_le
  have hbound := hr.bound_le
  refine ⟨hr.clear, ?_, ?_⟩
  · simp only [level]
    omega
  · simp only [bound]
    omega

/-- The left operand of a junction can stand for the junction. -/
theorem of_left (hop : op = .and ∨ op = .or) (h : (binary left op right).Clear)
    (hl : left'.StandsFor left) : left'.StandsFor (binary left op right) := by
  obtain ⟨-, hchained⟩ := junction_level hop
  obtain ⟨⟨-, hleft⟩, -⟩ := h
  have hl' := hl.level_le
  have hbound := hl.bound_le
  refine ⟨hl.clear, ?_, ?_⟩
  · simp only [level]
    omega
  · simp only [bound]
    omega

/-- A denial of what can stand for the operand can stand for the denial. -/
theorem denial (h : (not e).Clear) (he : e'.StandsFor e) : (not e').StandsFor (not e) := by
  obtain ⟨-, hlevel⟩ := h
  have he' := he.level_le
  have hbound := he.bound_le
  have his : denialLevel < Token.Kind.level .is := by decide
  refine ⟨⟨he.clear, by omega⟩, Nat.min_le_right _ _, ?_⟩
  simp only [bound]
  omega

/-- Whatever is in parentheses can stand for everything. -/
theorem parenthesized (h : e'.Clear) : (nested e').StandsFor e := of_closed h rfl rfl

/-- A truth value can stand for everything. -/
theorem truth (b : Bool) : (boolean b).StandsFor e := of_closed rfl rfl rfl

end StandsFor

/-! ### Folding known truth values -/

mutual

/-- What **folding** makes of a clear expression can stand for it. -/
theorem Clear.fold : ∀ {e : Expr}, e.Clear → e.fold.StandsFor e
  | binary left op right, h => by
    by_cases hop : op = .and ∨ op = .or
    · have hl := h.1.1.fold
      have hr := h.2.1.fold
      obtain ⟨b, hfold⟩ := exists_fold_junction hop left right
      rw [hfold]
      rcases foldJunction_cases b op left.fold right.fold with h' | h' | h' | h' <;> rw [h']
      · exact .truth b
      · exact .of_right hop h hr
      · exact .of_left hop h hl
      · exact .junction hop h hl hr
    · rw [fold_compare hop]
      exact .refl h
  | not e, h => by
    rw [Expr.fold, foldNot]
    split
    · exact .truth _
    · exact .denial h h.1.fold
  | nested e, h => by
    have he := Clear.fold (e := e) h
    rw [Expr.fold, foldNested]
    split
    · exact .truth _
    · exact .parenthesized he.clear
  | call name args, ⟨hname, hargs⟩ => by
    have hcall : (call name (foldAll args)).StandsFor (call name args) := by
      refine .of_closed ⟨hname, ?_⟩ rfl rfl
      rcases hargs with rfl | hargs
      · exact .inl rfl
      · exact .inr hargs.foldAll
    rw [Expr.fold, foldCall]
    split
    · split
      · exact .truth _
      · exact hcall
    · exact hcall
  | column _, h | literal _, h | inList _ _ _, h | isNull _ _, h | cast _ _, h | wildcard, h =>
    .refl h

/-- Clear expressions stay clear. -/
theorem AllClear.foldAll : ∀ {es : List Expr}, AllClear es → AllClear (foldAll es)
  | [], _ => trivial
  | _ :: _, ⟨he, hes⟩ => ⟨he.fold.clear, hes.foldAll⟩

end

/-! ### Guarded expressions -/

/-- Whether an expression **begins with a test** for `NULL` when parentheses are dropped. -/
def beginsWithTest : Expr → Bool
  | isNull _ _ => true
  | binary left _ _ => left.beginsWithTest
  | nested e => (e.isNested || e.isTight) && e.beginsWithTest
  | _ => false

mutual

/-- A **guarded** expression: when parentheses are dropped, the right operand of a comparison does
not begin with a test for `NULL`, which would take the comparison for its operand. -/
def Guarded : Expr → Prop
  | binary left op right =>
    left.Guarded ∧ right.Guarded ∧
      (op.level < Token.Kind.level .is ∨ right.beginsWithTest = false)
  | not e | nested e => e.Guarded
  | call _ args => AllGuarded args
  | _ => True

/-- Several guarded expressions. -/
def AllGuarded : List Expr → Prop
  | [] => True
  | e :: rest => e.Guarded ∧ AllGuarded rest

end

mutual

/-- Folding keeps an expression **guarded**. -/
theorem Guarded.fold : ∀ {e : Expr}, e.Guarded → e.fold.Guarded
  | binary left op right, h => by
    by_cases hop : op = .and ∨ op = .or
    · have hl := h.1.fold
      have hr := h.2.1.fold
      obtain ⟨b, hfold⟩ := exists_fold_junction hop left right
      rw [hfold]
      rcases foldJunction_cases b op left.fold right.fold with h' | h' | h' | h' <;> rw [h']
      · trivial
      · exact hr
      · exact hl
      · exact ⟨hl, hr, .inl (junction_level hop).1⟩
    · rw [fold_compare hop]
      exact h
  | not e, h => by
    have he := Guarded.fold (e := e) h
    rw [Expr.fold, foldNot]
    split
    · trivial
    · exact he
  | nested e, h => by
    have he := Guarded.fold (e := e) h
    rw [Expr.fold, foldNested]
    split
    · trivial
    · exact he
  | call name args, h => by
    have hcall : (call name (foldAll args)).Guarded := AllGuarded.foldAll h
    rw [Expr.fold, foldCall]
    split
    · split
      · trivial
      · exact hcall
    · exact hcall
  | column _, h | literal _, h | inList _ _ _, h | isNull _ _, h | cast _ _, h | wildcard, h => h

/-- Guarded expressions stay guarded. -/
theorem AllGuarded.foldAll : ∀ {es : List Expr}, AllGuarded es → AllGuarded (foldAll es)
  | [], _ => trivial
  | _ :: _, ⟨he, hes⟩ => ⟨he.fold, hes.foldAll⟩

end

/-! ### Dropping parentheses -/

/-- A clear expression that `IS NULL` leaves together on its left holds together behind whatever
is not as tight. -/
theorem Clear.level_of_bound : ∀ {e : Expr}, e.Clear → Token.Kind.level .is ≤ e.bound →
    Token.Kind.level .is ≤ e.level
  | binary left op right, ⟨⟨hl, hleft⟩, _⟩, h => by
    have hop : op.bound ≤ op.level := by
      unfold BinaryOp.bound
      split <;> omega
    have his := Nat.le_min.mp h
    exact Nat.le_min.mpr ⟨his.1.trans hop, hl.level_of_bound ((his.1.trans hop).trans hleft)⟩
  | not e, _, h => absurd (h.trans (Nat.min_le_left _ _)) (by decide)
  | inList e items negated, ⟨⟨he, hbound⟩, _⟩, _ =>
    Nat.le_min.mpr ⟨by decide, he.level_of_bound (Nat.le_trans (by decide) hbound)⟩
  | isNull e negated, ⟨he, hbound⟩, _ => Nat.le_min.mpr ⟨le_rfl, he.level_of_bound hbound⟩
  | column _, _, _ | literal _, _, _ | call _ _, _, _ | cast _ _, _, _ | nested _, _, _ => by
    simp only [level]
    decide

/-- What is tight, or in parentheses already, holds together as well as `IS NULL` does. -/
theorem Clear.level_of_loose {e : Expr} (h : e.Clear) (hloose : e.isNested || e.isTight) :
    Token.Kind.level .is ≤ e.level ∧ e.bound = closedLevel := by
  cases e with
  | isNull e negated => exact ⟨Nat.le_min.mpr ⟨le_rfl, h.1.level_of_bound h.2⟩, rfl⟩
  | binary _ _ _ | not _ | inList _ _ _ => simp [isNested, isTight] at hloose
  | _ => exact ⟨by simp only [level]; decide, rfl⟩

/-- What can stand for such an expression can stand for it in parentheses. -/
theorem StandsFor.of_loose {e e' : Expr} (h : e.Clear) (hloose : e.isNested || e.isTight)
    (he : e'.StandsFor e) : e'.StandsFor (nested e) := by
  obtain ⟨hlevel, hbound⟩ := h.level_of_loose hloose
  have hle := he.level_le
  rw [Nat.min_eq_left hlevel] at hle
  exact ⟨he.clear, (Nat.min_le_left _ _).trans hle, hbound.ge.trans he.bound_le⟩

/-- An expression that does not begin with a test holds together **as before** in front of what is
on its left. -/
theorem level_le_relax : ∀ {e : Expr}, e.beginsWithTest = false → e.level ≤ e.relax.level
  | binary left op right, h => by
    have hl := level_le_relax (e := left) h
    rw [Expr.relax, level, level]
    omega
  | nested e, h => by
    rw [Expr.relax]
    split
    next hloose =>
      rw [beginsWithTest, hloose, Bool.true_and] at h
      have he := level_le_relax h
      have hclosed : e.level = closedLevel := by
        cases e with
        | isNull _ _ => cases h
        | binary _ _ _ | not _ | inList _ _ _ => simp [isNested, isTight] at hloose
        | _ => rfl
      rw [hclosed] at he
      exact he
    next => rfl
  | not _, _ | call _ _, _ => by rw [Expr.relax]; rfl
  | column _, _ | literal _, _ | inList _ _ _, _ | cast _ _, _ | wildcard, _ => le_rfl

/-- An expression that begins with a test does not hold together better than the test. -/
theorem level_relax_le : ∀ {e : Expr}, e.beginsWithTest → e.relax.level ≤ Token.Kind.level .is
  | isNull _ _, _ => Nat.min_le_left _ _
  | binary left op right, h => by
    rw [Expr.relax]
    exact (Nat.min_le_right _ _).trans (level_relax_le (e := left) h)
  | nested e, h => by
    rw [beginsWithTest, Bool.and_eq_true] at h
    rw [Expr.relax, if_pos h.1]
    exact level_relax_le h.2

mutual

/-- What **dropping parentheses** makes of a clear and guarded expression can stand for it. -/
theorem Clear.relax : ∀ {e : Expr}, e.Clear → e.Guarded → e.relax.StandsFor e
  | binary left op right, ⟨⟨hl, hleft⟩, hr, hright⟩, ⟨hlguard, hrguard, htest⟩ => by
    have hl' := hl.relax hlguard
    have hr' := hr.relax hrguard
    have hlevel := hl'.level_le
    have hbound := hr'.bound_le
    have hright' : op.level < right.relax.level := by
      rcases htest with hop | htest
      · have hlevel := hr'.level_le
        omega
      · exact hright.trans_le (level_le_relax htest)
    rw [Expr.relax]
    refine ⟨⟨⟨hl'.clear, hleft.trans hl'.bound_le⟩, hr'.clear, hright'⟩, ?_, ?_⟩
    · simp only [level]
      omega
    · simp only [bound]
      omega
  | not e, h, hguard => by
    rw [Expr.relax]
    exact .denial h (h.1.relax hguard)
  | nested e, h, hguard => by
    have he := Clear.relax (e := e) h hguard
    rw [Expr.relax]
    split
    · next hloose => exact .of_loose h hloose he
    · exact .parenthesized he.clear
  | call name args, ⟨hname, hargs⟩, hguard => by
    rw [Expr.relax]
    refine .of_closed ⟨hname, ?_⟩ rfl rfl
    rcases hargs with rfl | hargs
    · exact .inl rfl
    · exact .inr (hargs.relaxAll hguard)
  | column _, h, _ | literal _, h, _ | inList _ _ _, h, _ | isNull _ _, h, _ | cast _ _, h, _
  | wildcard, h, _ => .refl h

/-- Clear and guarded expressions stay clear. -/
theorem AllClear.relaxAll : ∀ {es : List Expr}, AllClear es → AllGuarded es →
    AllClear (relaxAll es)
  | [], _, _ => trivial
  | _ :: _, ⟨he, hes⟩, ⟨hguard, hguards⟩ => ⟨(he.relax hguard).clear, hes.relaxAll hguards⟩

end

/-- The parentheses around a whole expression may be dropped. -/
theorem Clear.unwrap {e : Expr} (h : e.Clear) : e.unwrap.Clear := by
  cases e <;> exact h

mutual

/-- **Dropping parentheses** only drops parentheses. -/
theorem bare_relax : ∀ e : Expr, e.relax.bare = e.bare
  | binary left op right => by rw [relax, bare, bare, bare_relax left, bare_relax right]
  | not e => by rw [relax, bare, bare, bare_relax e]
  | nested e => by
    rw [relax, bare]
    split
    · exact bare_relax e
    · rw [bare, bare_relax e]
  | call name args => by rw [relax, bare, bare, bareAll_relaxAll args]
  | column _ | literal _ | inList _ _ _ | isNull _ _ | cast _ _ | wildcard => by
    rw [relax] <;> simp

/-- So it does in several expressions. -/
theorem bareAll_relaxAll : ∀ es : List Expr, bareAll (relaxAll es) = bareAll es
  | [] => rfl
  | e :: es => by rw [relaxAll, bareAll, bareAll, bare_relax e, bareAll_relaxAll es]

end

/-- The parentheses around a whole expression are dropped too. -/
theorem bare_unwrap (e : Expr) : e.unwrap.bare = e.bare := by
  cases e <;> rfl

/-! ### Filters are clear and guarded -/

/-- A **regular** expression is clear and guarded. -/
structure Regular (e : Expr) : Prop where
  /-- It is clear. -/
  clear : e.Clear
  /-- It is guarded. -/
  guarded : e.Guarded

/-- Joined expressions in parentheses are regular. -/
theorem Regular.join? {op : BinaryOp} (hop : op = .and ∨ op = .or) {es : List Expr}
    (h : ∀ e ∈ es, e.Regular) : ∀ e ∈ Expr.join? op es, e.Regular := by
  obtain ⟨hlevel, hchained⟩ := junction_level hop
  have hclosed := op.level_lt_closed
  -- joining behind an expression keeps it regular and `op` does not take it apart
  have hjoin : ∀ e ∈ Expr.join? op es, e.Regular ∧ op.level ≤ e.bound := by
    refine join?_induct ?_ ?_
    · exact fun e he => ⟨⟨(h e he).clear, (h e he).guarded⟩, hclosed.le⟩
    · rintro left ⟨hl, hbound⟩ r hr
      refine ⟨⟨⟨⟨hl.clear, hbound⟩, (h r hr).clear, hclosed⟩, ?_⟩, ?_⟩
      · exact ⟨hl.guarded, (h r hr).guarded, .inl hlevel⟩
      · exact Nat.le_min.mpr ⟨hchained.ge, hclosed.le⟩
  exact fun e he => (hjoin e he).1

/-- A finite value is a constant that can be written. -/
theorem isPlain_literalOf {v : Value} (h : ∀ x, v = .float x → x.isFinite) :
    (literal (literalOf v)).isPlain := by
  cases v with
  | float x => exact h x rfl
  | _ => rfl

/-- A **filter** is regular. -/
theorem IsFilter.regular {e : Expr} (h : e.IsFilter) : e.Regular := by
  induction h with
  | boolean b => exact ⟨rfl, trivial⟩
  | isNull f =>
    have hclosed : Token.Kind.level .is ≤ closedLevel := by decide
    exact ⟨⟨trivial, hclosed⟩, trivial⟩
  | @test f op v hop hv =>
    have hclosed := op.level_lt_closed
    exact ⟨⟨⟨trivial, hclosed.le⟩, isPlain_literalOf hv, hclosed⟩, trivial, trivial, .inr rfl⟩
  | finds term f =>
    have htype : IsTypeName "TEXT" := by decide
    have hname : isOrdinary "strpos" := by decide
    have hclosed := BinaryOp.gt.level_lt_closed
    have hcall : (call "strpos" [cast (columnOf f) "TEXT", string term]).Clear :=
      ⟨hname, .inr ⟨⟨trivial, htype⟩, rfl, trivial⟩⟩
    exact ⟨⟨⟨hcall, hclosed.le⟩, rfl, hclosed⟩, ⟨trivial, trivial, trivial⟩, trivial, .inr rfl⟩
  | join hop _ he ih => exact Regular.join? hop ih _ he
  | denial _ ih =>
    have hname : isOrdinary "COALESCE" := by decide
    have hclosed : denialLevel < closedLevel := by decide
    exact ⟨⟨⟨hname, .inr ⟨ih.clear, rfl, trivial⟩⟩, hclosed⟩, ih.guarded, trivial,
      trivial⟩

end Expr

/-! ### The standard passes -/

/-- The filter of a statement is **clear** after the standard passes. -/
theorem clear_simplified {filter : Option Expr} (h : ∀ e ∈ filter, e.IsFilter) :
    ∀ e ∈ relaxFilter (foldFilter filter), e.Clear := by
  intro e he
  obtain ⟨folded, hfolded, rfl⟩ := Option.map_eq_some_iff.mp he
  obtain ⟨e, hmem, rfl⟩ := Option.map_eq_some_iff.mp (Option.filter_eq_some_iff.mp hfolded).1
  have hregular := (h e hmem).regular
  exact (hregular.clear.fold.clear.relax hregular.guarded.fold).clear.unwrap

/-- Dropping the parentheses of a filter only drops parentheses. -/
theorem map_bare_relaxFilter (filter : Option Expr) :
    (relaxFilter filter).map Expr.bare = filter.map Expr.bare := by
  rw [relaxFilter, Option.map_map]
  exact Option.map_congr fun e _ => (Expr.bare_unwrap _).trans (Expr.bare_relax e)

end Listing.Sql
