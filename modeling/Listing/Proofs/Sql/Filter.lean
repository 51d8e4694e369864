import Listing.Proofs.Sql.Condition

/-!
# Filters Keep What a Model Asks For

The filter that a statement carries after the standard passes keeps exactly the rows that
the model asks for: those that the groups of conditions select and in which every text to
find is found. A group without conditions counts as false, but only beside another group;
a model without conditions and texts has no filter.

## Main results

* `keeps_whereClause?`, `keeps_termClause?` — what the parts of a filter keep.
* `keeps_filterOf` — the filter of a sound model keeps what the model asks for.
* `statements_keep_asked` — so do both statements of every model that is built.
-/

namespace Listing.Sql

variable {E : Engine} {row : Row}

/-! ### Groups of conditions -/

/-- Sound conditions are `TRUE` as expressions exactly where they hold. -/
theorem filterMap_condition? {e : Entity} (hrow : e.FilledBy row.valueOf) {cs : List Condition}
    (h : ∀ c ∈ cs, c.Sound e) :
    (cs.filterMap condition?).all (·.holds E.interpretation row) =
        cs.all (·.holds E.tests row.valueOf) ∧
      (cs.filterMap condition?).any (·.holds E.interpretation row) =
        cs.any (·.holds E.tests row.valueOf) ∧
      (cs.filterMap condition?).isEmpty = cs.isEmpty := by
  refine filterMap_of_forall ?_
  intro c hc
  obtain ⟨ex, hex⟩ := exists_condition? (h c hc)
  exact ⟨ex, hex, holds_condition hrow (h c hc) hex⟩

/-- A group of conditions that all have to hold; without conditions it does not. -/
theorem holds_join_and_getD_false {I : Interpretation} (es : List Expr) :
    ((Expr.join? .and es).getD (.boolean false)).holds I row =
      (!es.isEmpty && es.all (·.holds I row)) := by
  cases es with
  | nil => simp [Expr.join?]
  | cons e rest =>
      rw [← Expr.holds_join_and]
      simp [Expr.join?]

/-- The groups of a sound model keep the rows that its conditions **select**. -/
theorem keeps_whereClause? {m : Model} (hm : m.Sound) (hrow : m.entity.FilledBy row.valueOf) :
    keeps E.interpretation row (whereClause? m) = m.selects E.tests row.valueOf := by
  obtain ⟨hall, -, hallEmpty⟩ := filterMap_condition? (E := E) hrow (hm.conditions .all)
  obtain ⟨-, hany, hanyEmpty⟩ := filterMap_condition? (E := E) hrow (hm.conditions .any)
  have hnone : ∀ (op : BinaryOp) (es : List Expr), (Expr.join? op es).isNone = es.isEmpty := by
    intro op es
    cases es <;> rfl
  have hboth : ∀ a b : Expr, keeps E.interpretation row (Expr.join? .or [a, b]) =
      (a.holds E.interpretation row || b.holds E.interpretation row) := by
    intro a b
    simp [Expr.join?, keeps]
  rw [whereClause?, Model.selects, Model.allConditions, Model.anyConditions, hnone, hnone,
    hallEmpty, hanyEmpty]
  split
  · next h => rw [h]; rfl
  · next h =>
    rw [hboth, holds_join_and_getD_false, Expr.holds_join_or, hall, hany, hallEmpty,
      Bool.eq_false_iff.mpr h, Bool.false_or]

/-! ### Texts to find -/

/-- A text is looked for in the column of a field, written as a text. -/
theorem eval_finds (term : String) (f : Field) :
    (finds term f).eval E.interpretation row =
      if (row.valueOf f).isNull then .null
      else .boolean (decide (term.toList <:+: (E.written (row.valueOf f)).toList)) := by
  have hname : "strpos".equalsIgnoringCase "COALESCE" = false := by decide
  have hcast : (Expr.cast (columnOf f) "TEXT").eval E.interpretation row =
      if (row.valueOf f).isNull then .null else .text (E.written (row.valueOf f)) := by
    rw [Expr.eval, Engine.interpretation_cast, if_pos (rfl : "TEXT" = "TEXT"), columnOf, Expr.eval]
    rfl
  have heval : (finds term f).eval E.interpretation row =
      E.compare .gt (E.apply "strpos"
        [(Expr.cast (columnOf f) "TEXT").eval E.interpretation row, .text term]) (.integer 0) := by
    simp [finds, Expr.string, Expr.eval, Expr.evalAll, Interpretation.apply, hname, Literal.value]
  rw [heval, hcast]
  split
  · rfl
  · have hpos : 0 < position term.toList (E.written (row.valueOf f)).toList ↔
        term.toList <:+: (E.written (row.valueOf f)).toList := position_pos_iff
    simp [Engine.compare, Engine.apply, Value.isNull, E.test_gt_integer, ← hpos]

/-- A text is found in a field that contains it. -/
theorem holds_finds (term : String) (f : Field) :
    (finds term f).holds E.interpretation row =
      (!(row.valueOf f).isNull && E.tests.contains (row.valueOf f) term) := by
  unfold Expr.holds
  rw [eval_finds]
  cases (row.valueOf f).isNull <;> simp [Engine.tests]

/-- A text to find keeps the rows with a searchable field that **contains** it, and every
row if no field is searchable. -/
theorem keeps_termClause? (e : Entity) (term : String) :
    keeps E.interpretation row (termClause? e term) =
      (e.searchable.isEmpty || e.searchable.any fun f =>
        !(row.valueOf f).isNull && E.tests.contains (row.valueOf f) term) := by
  have hany : (e.searchable.map (finds term)).any (·.holds E.interpretation row) =
      e.searchable.any fun f =>
        !(row.valueOf f).isNull && E.tests.contains (row.valueOf f) term := by
    rw [List.any_map]
    congr 1
    funext f
    exact holds_finds term f
  rw [← hany, ← Expr.holds_join_or, termClause?]
  cases e.searchable <;> simp [Expr.join?, keeps]

/-! ### Filters -/

/-- All parts of the filter of a sound model are `TRUE` in the rows that it **asks for**. -/
theorem all_filterParts {m : Model} (hm : m.Sound) (hrow : m.entity.FilledBy row.valueOf) :
    (filterParts m).all (·.holds E.interpretation row) = m.meets E.tests row.valueOf := by
  have hterms : (m.terms.filterMap (termClause? m.entity)).all (·.holds E.interpretation row) =
      m.finds E.tests row.valueOf := by
    rw [List.all_filterMap, Model.finds]
    congr 1
    funext term
    rw [← keeps_termClause?]
    cases termClause? m.entity term <;> rfl
  have hwhere : (whereClause? m).toList.all (·.holds E.interpretation row) =
      m.selects E.tests row.valueOf := by
    rw [← keeps_whereClause? hm hrow]
    cases whereClause? m <;> simp [keeps]
  rw [filterParts, List.all_append, hwhere, hterms, Model.meets]

/-- The filter of a sound model keeps the rows that the model **asks for**, before and
after the standard passes. -/
theorem keeps_filterOf {m : Model} (hm : m.Sound) (hrow : m.entity.FilledBy row.valueOf)
    {s : Statement} (hs : filterOf m = .ok s.filter) :
    keeps E.interpretation row s.filter = m.meets E.tests row.valueOf ∧
      keeps E.interpretation row (s.simplify Pass.standard).filter =
        m.meets E.tests row.valueOf := by
  have hproper : ∀ e ∈ s.filter, e.Proper E.interpretation row :=
    fun e he => (isFilter_filterOf hm hs e he).proper
  rw [filterOf_eq hm] at hs
  have hfilter : Expr.join? .and (filterParts m) = s.filter := Except.ok.inj hs
  have hkeeps : keeps E.interpretation row s.filter = m.meets E.tests row.valueOf := by
    rw [← hfilter, ← keeps_getD, Expr.holds_join_and, all_filterParts hm hrow]
  refine ⟨hkeeps, ?_⟩
  rw [keeps_simplify Pass.standard fun e he => (hproper e he).typed, hkeeps]

/-- Both statements of a model that is built are there, and in every row that only lacks
values of nullable fields their filters, after the standard passes, keep the row **exactly
if the model asks for it**. -/
theorem statements_keep_asked (E : Engine) {ds : List Directive} {maxLimit : Nat} {e : Entity}
    {m : Model} (h : Model.build ds maxLimit e = .ok m) :
    ∃ count page, countStatement m = .ok count ∧ pageStatement m = .ok page ∧
      ∀ row : Row, e.FilledBy row.valueOf → ∀ s ∈ [count, page],
        keeps E.interpretation row (s.simplify Pass.standard).filter =
          m.meets E.tests row.valueOf := by
  have hm : m.Sound := sound_of_build h
  have hfilter := filterOf_eq hm
  refine ⟨_, _, by rw [countStatement, hfilter]; rfl, by rw [pageStatement, hfilter]; rfl, ?_⟩
  intro row hrow s hs
  rw [← entity_of_build h] at hrow
  rcases List.mem_pair.mp hs with rfl | rfl
  · exact (keeps_filterOf hm hrow hfilter).2
  · exact (keeps_filterOf hm hrow hfilter).2

/-! ### An example -/

namespace Sample

open Listing.Sample

/-- Asks for the invoices with a note other than that they were paid late or with a number
above five, if the note says something about being late. -/
def asked : List Directive :=
  [.selection ⟨["Note"], .notEqual, "paid late|null", .all, ""⟩,
    .selection ⟨["Id"], .greaterThan, "5", .any, ""⟩, .freeText "late"]

/-- The model of what is asked for. -/
def model : Model :=
  .ofParts invoices 10
    [.condition .all ⟨note, .notEqual, .values [.text "paid late", .null], ""⟩,
      .condition .any ⟨.ofName "Id" .integer, .greaterThan, .bound (.integer 5), ""⟩,
      .term "late"]

/-- It is built. -/
theorem build_asked : Model.build asked 10 invoices = .ok model := rfl

/-- A store that compares texts and integers only. -/
def engine : Engine where
  test
    | .eq, v, w => v = w
    | .gt, .integer a, .integer b => decide (b < a)
    | _, _, _ => false
  written
    | .text s => s
    | _ => ""
  cast _ v := v
  call _ _ := .null
  test_gt_integer _ _ := rfl

/-- The row of an invoice. -/
def invoice (number : Int) (note : Value) : Row := fun column =>
  if column = "id" then .integer number else note

/-- An invoice may lack a note. -/
theorem filledBy_invoice (number : Int) (note : Value) :
    invoices.FilledBy (invoice number note).valueOf := by
  intro f hf hnullable
  simp only [invoices, List.mem_cons, List.not_mem_nil, or_false] at hf
  rcases hf with rfl | rfl
  · rfl
  · cases hnullable

end Sample

/-- Of two invoices that were paid late the one with the larger number is kept. With another
note the number does not matter, and without a note no number is large enough. -/
theorem statements_keep_invoices : ∃ count page,
    countStatement Sample.model = .ok count ∧ pageStatement Sample.model = .ok page ∧
      ∀ s ∈ [count, page],
        let keeps (number : Int) (note : Value) : Bool :=
          keeps Sample.engine.interpretation (Sample.invoice number note)
            (s.simplify Pass.standard).filter
        keeps 7 (.text "paid late") = true ∧ keeps 3 (.text "paid late") = false ∧
          keeps 3 (.text "late again") = true ∧ keeps 7 .null = false := by
  obtain ⟨count, page, hcount, hpage, hkeeps⟩ :=
    statements_keep_asked Sample.engine Sample.build_asked
  refine ⟨count, page, hcount, hpage, ?_⟩
  intro s hs
  simp only [hkeeps _ (Sample.filledBy_invoice _ _) s hs]
  exact ⟨rfl, rfl, rfl, rfl⟩

end Listing.Sql
