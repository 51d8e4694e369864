import Listing.Proofs.Search.Matching
import Listing.Proofs.Sql.Filter

/-!
# Both Stores Select the Same Records

A model with texts to find goes to the search index and one without goes to the relational
store, so a text must not change what the conditions mean. The query that the search index is
sent is two-valued and denies by `must_not`; the filter of a statement is three-valued and
denies behind `COALESCE`. Both select what the conditions of the model select, and thereby
the same records.

## Main results

* `whereClause_agrees_filterOf` — for every model that is built, the query that its
  conditions are sent as matches a document exactly if the filter without the texts keeps
  the row of the same record.
-/

namespace Listing

/-- A model that asks for no text. -/
def Model.withoutTerms (m : Model) : Model := { m with terms := [] }

/-- What is sound without its texts is as sound as before. -/
theorem Model.Sound.withoutTerms {m : Model} (h : m.Sound) : m.withoutTerms.Sound :=
  ⟨h.conditions, h.skip_le, h.limit_le⟩

/-- Without texts, the records that are asked for are those that the conditions select. -/
theorem Model.meets_withoutTerms (t : Tests) (valueOf : Field → Value) (m : Model) :
    m.withoutTerms.meets t valueOf = m.selects t valueOf := by
  rw [Model.meets, Model.finds, Model.withoutTerms, List.all_nil, Bool.and_true]
  rfl

namespace Search

/-- The clause of two groups is missing if both groups are empty. -/
theorem groupClause?_eq_none {all any : List Clause} :
    groupClause? all any = none ↔ all = [] ∧ any = [] := by
  cases all <;> cases any <;> simp [groupClause?]

/-- Sound conditions are refused by neither store, so either group of conditions is empty
in both or in none. -/
theorem filterMap_condition?_eq_nil {e : Entity} {cs : List Condition} (h : ∀ c ∈ cs, c.Sound e) :
    cs.filterMap condition? = [] ↔ cs.filterMap Sql.condition? = [] := by
  rw [filterMap_eq_nil_of_forall fun c hc => exists_condition? (h c hc),
    filterMap_eq_nil_of_forall fun c hc => Sql.exists_condition? (h c hc)]

/-- There is a clause for the conditions of a sound model exactly if there is a part of the
filter for them. -/
theorem groupClause?_eq_none_iff {m : Model} (hm : m.Sound) :
    groupClause? (m.allConditions.filterMap condition?) (m.anyConditions.filterMap condition?) =
      none ↔ Sql.whereClause? m = none := by
  have hall : ∀ c ∈ m.allConditions, c.Sound m.entity := hm.conditions .all
  have hany : ∀ c ∈ m.anyConditions, c.Sound m.entity := hm.conditions .any
  rw [groupClause?_eq_none, filterMap_condition?_eq_nil hall, filterMap_condition?_eq_nil hany,
    Sql.whereClause?]
  cases m.allConditions.filterMap Sql.condition? <;>
    cases m.anyConditions.filterMap Sql.condition? <;> simp [Sql.Expr.join?]

/-- For every model that is built, both stores take its conditions, and there is a clause
for them exactly if there is a filter. What the clause is sent as is a query that the search
index decides. In every statement with that filter, before and after the standard passes, the
filter **keeps the row of a record exactly if its document matches the query**. -/
theorem whereClause_agrees_filterOf {ds : List Directive} {maxLimit : Nat} {e : Entity} {m : Model}
    (h : Model.build ds maxLimit e = .ok m) :
    ∃ clause filter, whereClause m = .ok clause ∧ Sql.filterOf m.withoutTerms = .ok filter ∧
      (clause = none ↔ filter = none) ∧
      ∀ (M : Matcher) (E : Sql.Engine) (doc : Document) (row : Sql.Row),
        e.FilledBy row.valueOf → doc.Stores e row.valueOf → M.AgreesFor E.tests row.valueOf m →
        ∀ s : Sql.Statement, s.filter = filter → ∀ sent ∈ [s, s.simplify Sql.Pass.standard],
          clause.elim (some true) (fun clause => M.decides doc clause.json) =
            some (Sql.keeps E.interpretation row sent.filter) := by
  have hm : m.Sound := sound_of_build h
  have hclause := whereClause_eq hm
  have hfilter := Sql.filterOf_eq hm.withoutTerms
  have hparts : Sql.filterParts m.withoutTerms = (Sql.whereClause? m).toList :=
    List.append_nil _
  refine ⟨_, _, hclause, hfilter, ?_, ?_⟩
  · rw [groupClause?_eq_none_iff hm, Sql.Expr.join?_eq_none, hparts, Option.toList_eq_nil_iff]
  · intro M E doc row hfills hdoc hagree s hs sent hsent
    rw [← entity_of_build h] at hfills hdoc
    have hkeeps := Sql.keeps_filterOf (E := E) hm.withoutTerms hfills (hfilter.trans (by rw [hs]))
    rw [Model.meets_withoutTerms] at hkeeps
    rw [decides_whereClause hm hdoc hfills hagree hclause]
    rcases List.mem_pair.mp hsent with rfl | rfl
    · rw [hkeeps.1]
    · rw [hkeeps.2]

/-! ### An example -/

namespace Sample

/-- The document of an invoice. -/
def invoice (number : Int) (note : Value) : Document := fun name =>
  if name = "id" then some (.integer number) else note.present?

/-- A search index that compares texts and integers only. -/
def matcher : Matcher where
  equal
    | .text s, .string asked => s = asked
    | .integer n, .integer asked => n = asked
    | _, _ => false
  compare
    | .greaterThan, .integer n, .integer bound => decide (bound < n)
    | _, _, _ => false
  fits _ _ := false
  words _ _ := false

/-- The document of an invoice has what its row has. -/
theorem stores_invoice (number : Int) (note : Value) :
    (invoice number note).Stores Listing.Sample.invoices
      (Sql.Sample.invoice number note).valueOf := by
  intro f hf
  simp only [Listing.Sample.invoices, List.mem_cons, List.not_mem_nil, or_false] at hf
  rcases hf with rfl | rfl
  · exact ⟨rfl, rfl⟩
  · exact ⟨rfl, rfl⟩

/-- Both stores compare alike. -/
theorem agreesFor_model (valueOf : Field → Value) :
    matcher.AgreesFor Sql.Sample.engine.tests valueOf Sql.Sample.model := by
  intro kind c hc _
  cases kind with
  | all =>
      obtain rfl := List.mem_singleton.mp hc
      have hequal : ∀ v, matcher.equal v (.string "paid late") =
          Sql.Sample.engine.test .eq v (.text "paid late") := by
        intro v
        cases v <;> simp [matcher, Sql.Sample.engine]
      intro w hw hthere
      rcases List.mem_pair.mp hw with rfl | rfl
      · exact hequal _
      · cases hthere
  | any =>
      obtain rfl := List.mem_singleton.mp hc
      have hcompare : ∀ v, matcher.compare .greaterThan v (.integer 5) =
          Sql.Sample.engine.test .gt v (.integer 5) := by
        intro v
        cases v <;> rfl
      exact hcompare _

/-- The clause of the conditions. -/
def clause : Clause :=
  .someOf [.allOf [.noneOf (.someOf
    [.term "note.keyword" (.text "paid late"), .noneOf (.present "note")])],
    .range "id" .greaterThan (.integer 5)]

/-- It is that of the model. -/
theorem whereClause_model : whereClause Sql.Sample.model = .ok (some clause) := rfl

end Sample

/-- Of two invoices that were paid late both stores select the one with the larger number.
With another note the number does not matter, and without a note a small number is not
enough. -/
theorem whereClause_agrees_invoices :
    ∃ filter, Sql.filterOf Sql.Sample.model.withoutTerms = .ok filter ∧
      let matches? (number : Int) (note : Value) : Option Bool :=
        Sample.matcher.decides (Sample.invoice number note) Sample.clause.json
      let keeps (number : Int) (note : Value) : Bool :=
        Sql.keeps Sql.Sample.engine.interpretation (Sql.Sample.invoice number note) filter
      (matches? 7 (.text "paid late") = some true ∧ keeps 7 (.text "paid late") = true) ∧
        (matches? 3 (.text "paid late") = some false ∧ keeps 3 (.text "paid late") = false) ∧
        (matches? 3 (.text "open") = some true ∧ keeps 3 (.text "open") = true) ∧
        (matches? 3 .null = some false ∧ keeps 3 .null = false) := by
  obtain ⟨clause, filter, hclause, hfilter, -, hagree⟩ :=
    whereClause_agrees_filterOf Sql.Sample.build_asked
  obtain rfl := Except.ok.inj (hclause.symm.trans Sample.whereClause_model)
  have hboth : ∀ number note answer,
      Sample.matcher.decides (Sample.invoice number note) Sample.clause.json = some answer →
        Sample.matcher.decides (Sample.invoice number note) Sample.clause.json = some answer ∧
          Sql.keeps Sql.Sample.engine.interpretation (Sql.Sample.invoice number note) filter =
            answer := by
    intro number note answer hanswer
    have hsame := hagree Sample.matcher Sql.Sample.engine (Sample.invoice number note)
      (Sql.Sample.invoice number note) (Sql.Sample.filledBy_invoice number note)
      (Sample.stores_invoice number note) (Sample.agreesFor_model _)
      ⟨[], none, filter, [], none, none⟩ rfl _ (List.mem_cons_self ..)
    exact ⟨hanswer, Option.some.inj (hsame.symm.trans hanswer)⟩
  exact ⟨filter, hfilter, hboth _ _ _ rfl, hboth _ _ _ rfl, hboth _ _ _ rfl, hboth _ _ _ rfl⟩

end Search

end Listing
