import Listing.Sql.Simplify

/-!
# The Standard Passes Reach a Normal Form

Each of the two standard passes leaves nothing behind that it would change itself. An expression
is **folded** if no junction, denial or pair of parentheses has a known truth value for an operand
and no `COALESCE` begins with one, and **relaxed** if there are parentheses around operations only.
The passes run once and one after the other, so neither may bring back what the other has removed:
dropping parentheses keeps an expression folded, because it keeps which truth value an expression
is known to be.

## Main results

* `Expr.folded_fold`, `Expr.relaxed_relax` — each pass reaches its own form.
* `Expr.Folded.fold_eq`, `Expr.Relaxed.relax_eq` — and changes nothing that is in it.
* `Expr.Folded.relax` — the second pass keeps the form of the first.
* `simplify_normal` — the filter is in normal form after both, and they change it no more.
-/

namespace Listing.Sql

namespace Expr

/-! ### Forms of expressions -/

/-- An expression that is a **known truth value**, perhaps in parentheses. -/
inductive Known (b : Bool) : Expr → Prop
  /-- The truth value itself. -/
  | truth : Known b (literal (.boolean b))
  /-- The truth value in parentheses. -/
  | nested {e : Expr} (h : Known b e) : Known b (nested e)

/-- An expression that is **open**: it is no known truth value. -/
def Open (e : Expr) : Prop := ∀ b, ¬ e.Known b

mutual

/-- A **folded** expression: no operation that the first pass reaches has an operand that it would
take out. -/
def Folded : Expr → Prop
  | binary left .and right | binary left .or right =>
    (left.Folded ∧ left.Open) ∧ right.Folded ∧ right.Open
  | not e | nested e => e.Folded ∧ e.Open
  | call name args =>
    AllFolded args ∧ (name.equalsIgnoringCase "COALESCE" → ∀ e ∈ args.head?, e.Open)
  | _ => True

/-- Several folded expressions. -/
def AllFolded : List Expr → Prop
  | [] => True
  | e :: rest => e.Folded ∧ AllFolded rest

end

/-- An **operation**: an expression that comes apart without parentheses. -/
def IsOperation : Expr → Prop
  | binary _ _ _ | not _ | inList _ _ _ => True
  | column _ | literal _ | wildcard | call _ _ | cast _ _ | isNull _ _ | nested _ => False

mutual

/-- A **relaxed** expression: wherever the second pass reaches, parentheses are around operations
only. -/
def Relaxed : Expr → Prop
  | nested e => e.Relaxed ∧ e.IsOperation
  | binary left _ right => left.Relaxed ∧ right.Relaxed
  | not e => e.Relaxed
  | call _ args => AllRelaxed args
  | _ => True

/-- Several relaxed expressions. -/
def AllRelaxed : List Expr → Prop
  | [] => True
  | e :: rest => e.Relaxed ∧ AllRelaxed rest

end

/-- A filter in **normal form**. -/
structure IsNormal (e : Expr) : Prop where
  /-- It is not known to be true. -/
  not_known : ¬ e.Known true
  /-- It is not in parentheses. -/
  ne_nested : ∀ e', e ≠ nested e'
  /-- It is folded. -/
  folded : e.Folded
  /-- It is relaxed. -/
  relaxed : e.Relaxed

variable {e left right : Expr} {op : BinaryOp} {name : String} {args : List Expr} {b : Bool}

/-- The truth value that is found is the one that an expression is known to be. -/
theorem known_of_truth? : ∀ {e : Expr}, e.truth? = some b → e.Known b
  | literal (.boolean _), h => Option.some.inj h ▸ .truth
  | nested _, h => .nested (known_of_truth? h)

/-- A known truth value is found. -/
theorem Known.truth?_eq (h : e.Known b) : e.truth? = some b := by
  induction h with
  | truth => rfl
  | nested _ ih => exact ih

/-- The truth value that an expression is known to be. -/
theorem truth?_eq_some_iff : e.truth? = some b ↔ e.Known b :=
  ⟨known_of_truth?, Known.truth?_eq⟩

/-- An expression that is open. -/
theorem truth?_eq_none_iff : e.truth? = none ↔ e.Open := by
  rw [Option.eq_none_iff_forall_ne_some]
  exact forall_congr' fun b => not_congr truth?_eq_some_iff

/-- What is asked of a junction. -/
theorem folded_junction (hop : op = .and ∨ op = .or) :
    (binary left op right).Folded ↔ (left.Folded ∧ left.Open) ∧ right.Folded ∧ right.Open := by
  rcases hop with rfl | rfl <;> rw [Folded]

/-- Of other operations nothing is asked. -/
theorem folded_compare (hop : ¬ (op = .and ∨ op = .or)) : (binary left op right).Folded := by
  cases op <;> simp_all [Folded]

/-! ### Folding -/

/-- A truth value is folded. -/
theorem folded_boolean (b : Bool) : (boolean b).Folded := trivial

/-- A folded junction of folded operands. -/
theorem folded_foldJunction (hop : op = .and ∨ op = .or) (hl : left.Folded) (hr : right.Folded) :
    (foldJunction b op left right).Folded := by
  unfold foldJunction
  split
  · exact folded_boolean b
  split
  · exact hr
  next hleft =>
  split
  · exact hl
  next hright =>
  rw [Bool.not_eq_true, Option.isSome_eq_false_iff, Option.isNone_iff_eq_none] at hleft hright
  exact (folded_junction hop).mpr
    ⟨⟨hl, truth?_eq_none_iff.mp hleft⟩, hr, truth?_eq_none_iff.mp hright⟩

/-- A folded denial of a folded operand. -/
theorem folded_foldNot (h : e.Folded) : (foldNot e).Folded := by
  unfold foldNot
  split
  next b _ => exact folded_boolean !b
  next hopen => exact ⟨h, truth?_eq_none_iff.mp hopen⟩

/-- Folded parentheses around a folded expression. -/
theorem folded_foldNested (h : e.Folded) : (foldNested e).Folded := by
  unfold foldNested
  split
  next b _ => exact folded_boolean b
  next hopen => exact ⟨h, truth?_eq_none_iff.mp hopen⟩

/-- A folded function of folded arguments. -/
theorem folded_foldCall (h : AllFolded args) : (foldCall name args).Folded := by
  unfold foldCall
  split
  next b _ =>
    split
    next => exact folded_boolean b
    next hname => exact ⟨h, fun hname' => absurd hname' hname⟩
  next hopen =>
    exact ⟨h, fun _ e he => truth?_eq_none_iff.mp (Option.bind_eq_none_iff.mp hopen e he)⟩

mutual

/-- Folding makes every expression **folded**. -/
theorem folded_fold : ∀ e : Expr, e.fold.Folded
  | binary left op right => by
    by_cases hop : op = .and ∨ op = .or
    · obtain ⟨b, hfold⟩ := exists_fold_junction hop left right
      rw [hfold]
      exact folded_foldJunction hop (folded_fold left) (folded_fold right)
    · rw [fold_compare hop]
      exact folded_compare hop
  | not e => by
    rw [fold]
    exact folded_foldNot (folded_fold e)
  | nested e => by
    rw [fold]
    exact folded_foldNested (folded_fold e)
  | call name args => by
    rw [fold]
    exact folded_foldCall (allFolded_foldAll args)
  | column _ | literal _ | inList _ _ _ | isNull _ _ | cast _ _ | wildcard => trivial

/-- Folding makes several expressions folded. -/
theorem allFolded_foldAll : ∀ es : List Expr, AllFolded (foldAll es)
  | [] => trivial
  | e :: rest => ⟨folded_fold e, allFolded_foldAll rest⟩

end

/-- A junction of open operands has nothing to fold. -/
theorem foldJunction_of_open (hl : left.Open) (hr : right.Open) :
    foldJunction b op left right = binary left op right := by
  simp [foldJunction, truth?_eq_none_iff.mpr hl, truth?_eq_none_iff.mpr hr]

/-- A function has nothing to fold if it is not `COALESCE` or begins with an open argument. -/
theorem foldCall_of_open (h : name.equalsIgnoringCase "COALESCE" → ∀ e ∈ args.head?, e.Open) :
    foldCall name args = call name args := by
  unfold foldCall
  split
  next b hb =>
    obtain ⟨e, he, hknown⟩ := Option.bind_eq_some_iff.mp hb
    exact if_neg fun hname => h hname e he b (truth?_eq_some_iff.mp hknown)
  next => rfl

mutual

/-- Folding **changes nothing** that is folded. -/
theorem Folded.fold_eq : ∀ {e : Expr}, e.Folded → e.fold = e
  | binary left op right, h => by
    by_cases hop : op = .and ∨ op = .or
    · obtain ⟨⟨hl, hleft⟩, hr, hright⟩ := (folded_junction hop).mp h
      obtain ⟨b, hfold⟩ := exists_fold_junction hop left right
      rw [hfold, hl.fold_eq, hr.fold_eq, foldJunction_of_open hleft hright]
    · exact fold_compare hop left right
  | not e, ⟨h, hopen⟩ => by
    rw [fold, h.fold_eq, foldNot, truth?_eq_none_iff.mpr hopen]
  | nested e, ⟨h, hopen⟩ => by
    rw [fold, h.fold_eq, foldNested, truth?_eq_none_iff.mpr hopen]
  | call name args, ⟨hargs, hopen⟩ => by
    rw [fold, hargs.foldAll_eq, foldCall_of_open hopen]
  | column _, _ | literal _, _ | inList _ _ _, _ | isNull _ _, _ | cast _ _, _ | wildcard, _ => rfl

/-- Nor does it change several expressions that are. -/
theorem AllFolded.foldAll_eq : ∀ {es : List Expr}, AllFolded es → foldAll es = es
  | [], _ => rfl
  | e :: rest, ⟨he, hrest⟩ => by rw [foldAll, he.fold_eq, hrest.foldAll_eq]

end

/-! ### Dropping parentheses -/

/-- What is neither tight nor in parentheses is an operation. -/
theorem isOperation_iff : e.IsOperation ↔ ¬ (e.isNested || e.isTight) := by
  cases e <;> simp [IsOperation, isNested, isTight]

/-- An operation stays one. -/
theorem IsOperation.relax : ∀ {e : Expr}, e.IsOperation → e.relax.IsOperation
  | binary _ _ _, _ | not _, _ | inList _ _ _, _ => trivial

/-- An expression is known to be the **same truth value** without parentheses. -/
theorem truth?_relax : ∀ e : Expr, e.relax.truth? = e.truth?
  | nested e => by
    rw [relax, truth?]
    split
    · exact truth?_relax e
    · rw [truth?, truth?_relax e]
  | binary _ _ _ | not _ | call _ _ | column _ | literal _ | inList _ _ _ | isNull _ _ | cast _ _
  | wildcard => rfl

/-- An open expression stays open. -/
theorem Open.relax (h : e.Open) : e.relax.Open := by
  rw [← truth?_eq_none_iff, truth?_relax, truth?_eq_none_iff]
  exact h

/-- The first argument of a function is relaxed. -/
theorem head?_relaxAll (es : List Expr) : (relaxAll es).head? = es.head?.map Expr.relax := by
  cases es <;> rfl

mutual

/-- Dropping parentheses **keeps** an expression folded. -/
theorem Folded.relax : ∀ {e : Expr}, e.Folded → e.relax.Folded
  | binary left op right, h => by
    rw [Expr.relax]
    by_cases hop : op = .and ∨ op = .or
    · obtain ⟨⟨hl, hleft⟩, hr, hright⟩ := (folded_junction hop).mp h
      exact (folded_junction hop).mpr ⟨⟨hl.relax, hleft.relax⟩, hr.relax, hright.relax⟩
    · exact folded_compare hop
  | not e, ⟨h, hopen⟩ => by
    rw [Expr.relax]
    exact ⟨h.relax, hopen.relax⟩
  | nested e, ⟨h, hopen⟩ => by
    rw [Expr.relax]
    split
    · exact h.relax
    · exact ⟨h.relax, hopen.relax⟩
  | call name args, ⟨hargs, hopen⟩ => by
    rw [Expr.relax]
    refine ⟨hargs.relaxAll, fun hname e' he' => ?_⟩
    rw [head?_relaxAll] at he'
    obtain ⟨e, he, rfl⟩ := Option.map_eq_some_iff.mp he'
    exact (hopen hname e he).relax
  | column _, h | literal _, h | inList _ _ _, h | isNull _ _, h | cast _ _, h | wildcard, h => h

/-- So it does with several expressions. -/
theorem AllFolded.relaxAll : ∀ {es : List Expr}, AllFolded es → AllFolded (relaxAll es)
  | [], _ => trivial
  | _ :: _, ⟨he, hrest⟩ => ⟨he.relax, hrest.relaxAll⟩

end

mutual

/-- Dropping parentheses makes every expression **relaxed**. -/
theorem relaxed_relax : ∀ e : Expr, e.relax.Relaxed
  | nested e => by
    rw [relax]
    split
    next => exact relaxed_relax e
    next hoperation => exact ⟨relaxed_relax e, (isOperation_iff.mpr hoperation).relax⟩
  | binary left op right => by
    rw [relax]
    exact ⟨relaxed_relax left, relaxed_relax right⟩
  | not e => by
    rw [relax]
    exact relaxed_relax e
  | call name args => by
    rw [relax]
    exact allRelaxed_relaxAll args
  | column _ | literal _ | inList _ _ _ | isNull _ _ | cast _ _ | wildcard => trivial

/-- It makes several expressions relaxed. -/
theorem allRelaxed_relaxAll : ∀ es : List Expr, AllRelaxed (relaxAll es)
  | [] => trivial
  | e :: rest => ⟨relaxed_relax e, allRelaxed_relaxAll rest⟩

end

mutual

/-- Dropping parentheses **changes nothing** that is relaxed. -/
theorem Relaxed.relax_eq : ∀ {e : Expr}, e.Relaxed → e.relax = e
  | nested e, ⟨h, hoperation⟩ => by
    rw [relax, if_neg (isOperation_iff.mp hoperation), h.relax_eq]
  | binary left op right, ⟨hl, hr⟩ => by rw [relax, hl.relax_eq, hr.relax_eq]
  | not e, h => by rw [relax, Relaxed.relax_eq (e := e) h]
  | call name args, h => by rw [relax, AllRelaxed.relaxAll_eq h]
  | column _, _ | literal _, _ | inList _ _ _, _ | isNull _ _, _ | cast _ _, _ | wildcard, _ => rfl

/-- Nor does it change several expressions that are. -/
theorem AllRelaxed.relaxAll_eq : ∀ {es : List Expr}, AllRelaxed es → relaxAll es = es
  | [], _ => rfl
  | e :: rest, ⟨he, hrest⟩ => by rw [relaxAll, he.relax_eq, hrest.relaxAll_eq]

end

/-! ### Filters -/

/-- What both passes have reached is in **normal form** without its outer parentheses. -/
theorem isNormal_unwrap (hfolded : e.Folded) (hrelaxed : e.Relaxed) (hknown : ¬ e.Known true) :
    e.unwrap.IsNormal := by
  cases e with
  | nested e =>
    obtain ⟨hrelaxed, hoperation⟩ := hrelaxed
    refine ⟨fun h => hknown (.nested h), ?_, hfolded.1, hrelaxed⟩
    rintro e' rfl
    exact hoperation
  | _ => exact ⟨hknown, nofun, hfolded, hrelaxed⟩

/-- A filter in normal form has no outer parentheses. -/
theorem IsNormal.unwrap_eq (h : e.IsNormal) : e.unwrap = e := by
  cases e with
  | nested e => exact absurd rfl (h.ne_nested e)
  | _ => rfl

end Expr

/-- The standard passes make filters **normal**. -/
theorem isNormal_of_mem_simplified {filter : Option Expr} :
    ∀ e ∈ relaxFilter (foldFilter filter), e.IsNormal := by
  intro e he
  obtain ⟨folded, hfolded, rfl⟩ := Option.map_eq_some_iff.mp he
  obtain ⟨hmem, htrue⟩ := Option.filter_eq_some_iff.mp hfolded
  obtain ⟨e, -, rfl⟩ := Option.map_eq_some_iff.mp hmem
  refine Expr.isNormal_unwrap (Expr.folded_fold e).relax (Expr.relaxed_relax _) fun hknown => ?_
  rw [← Expr.truth?_eq_some_iff, Expr.truth?_relax] at hknown
  simp [hknown] at htrue

/-- They **change nothing** of a normal filter. -/
theorem simplified_of_isNormal {filter : Option Expr} (h : ∀ e ∈ filter, e.IsNormal) :
    relaxFilter (foldFilter filter) = filter := by
  cases filter with
  | none => rfl
  | some e =>
    have he := h e rfl
    have htrue : e.truth? ≠ some true :=
      fun htrue => he.not_known (Expr.known_of_truth? htrue)
    have hfold : foldFilter (some e) = some e := by
      rw [foldFilter, Option.map_some, he.folded.fold_eq]
      exact Option.filter_eq_some_iff.mpr ⟨rfl, by simpa using htrue⟩
    rw [hfold, relaxFilter, Option.map_some, he.relaxed.relax_eq, he.unwrap_eq]

/-- The filter of every statement is in **normal form** after the standard passes, and running them
a second time changes nothing. -/
theorem simplify_normal (s : Statement) :
    (∀ e ∈ (s.simplify Pass.standard).filter, e.IsNormal) ∧
      (s.simplify Pass.standard).simplify Pass.standard = s.simplify Pass.standard := by
  have hfilter : (s.simplify Pass.standard).filter = relaxFilter (foldFilter s.filter) := rfl
  have hnormal : ∀ e ∈ (s.simplify Pass.standard).filter, e.IsNormal :=
    hfilter ▸ isNormal_of_mem_simplified
  refine ⟨hnormal, ?_⟩
  show { s.simplify Pass.standard with
    filter := relaxFilter (foldFilter (s.simplify Pass.standard).filter) } = _
  rw [simplified_of_isNormal hnormal]

/-- A filter with truth values and parentheses that are not needed. -/
theorem simplify_normal_tangled :
    let tangled : Expr :=
      .binary (.nested (.binary (.boolean true) .and (.nested (.nested (.column "a"))))) .or
        (.not (.nested (.call "coalesce" [.nested (.column "b"), .boolean false])))
    let s : Statement := ⟨[], none, some (.nested tangled), [], none, none⟩
    let e : Expr :=
      .binary (.column "a") .or (.not (.call "coalesce" [.column "b", .boolean false]))
    (s.simplify Pass.standard).filter = some e ∧ e.IsNormal ∧
      (s.simplify Pass.standard).simplify Pass.standard = s.simplify Pass.standard := by
  intro tangled s e
  have hfilter : (s.simplify Pass.standard).filter = some e := rfl
  obtain ⟨hnormal, hfixed⟩ := simplify_normal s
  exact ⟨hfilter, hnormal e hfilter, hfixed⟩

end Listing.Sql
