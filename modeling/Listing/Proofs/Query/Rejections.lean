import Listing.Proofs.Query.Building
import Listing.Proofs.Results

/-!
# Every Directive Is Judged by Itself

`Model.build` checks each directive on its own and puts the parts together afterwards. It may as
well be done in **one pass**, with a draft of the model (`Draft`) to which every directive adds
its part, or else its failure. In a pass there is much that a directive could be judged by: how
the draft looks by then, and whether something has been rejected before. The pass comes to the
same, so nothing of this matters: what is reported is what is reported of each directive alone.

## Main results

* `Draft.finish_foldl_add` — building in one pass.
* `Draft.failures_foldl_add` — a pass adds the failures of the directives, in order.
* `reported_each` — all failures are reported, each with its directive's text, whatever the
  other directives are.
-/

namespace Listing

variable {ds : List Directive} {maxLimit : Nat} {e : Entity}

/-! ### Building in one pass -/

/-- A **draft** of a model: what the directives up to some place have added. -/
structure Draft where
  /-- The conditions, by group. -/
  groups : List Group
  /-- The keys of the order and their positions, in the order of the directives. -/
  order : List (Nat × SortKey)
  /-- The fields that are asked for. -/
  select : List Field
  /-- The relations whose records are asked for too. -/
  includes : List Relation
  /-- The number of records in front of the page. -/
  skip : Nat
  /-- The number of records that the last limit asks for. -/
  limit : Option Nat
  /-- The texts to find. -/
  terms : List String
  /-- What has been rejected. -/
  failures : List Failure

namespace Draft

/-- The draft before the first directive. -/
def empty : Draft := ⟨[], [], [], [], 0, none, [], []⟩

/-- A draft with another part. -/
def put (draft : Draft) : Part → Draft
  | .condition kind c => { draft with groups := addCondition draft.groups kind c }
  | .sortKey i k => { draft with order := draft.order ++ [(i, k)] }
  | .skip n => { draft with skip := min n maxOffset }
  | .limit n => { draft with limit := some n }
  | .relation r => { draft with includes := addNamed (·.name) draft.includes r }
  | .field f => { draft with select := addNamed (·.name) draft.select f }
  | .term t => if t.isEmpty then draft else { draft with terms := draft.terms ++ [t] }

/-- A draft after another directive. -/
def add (e : Entity) (draft : Draft) (d : Directive) : Draft :=
  match d.check e with
  | .ok part => draft.put part
  | .error r => { draft with failures := draft.failures ++ [⟨d.source, r.message⟩] }

/-- The model of a draft, or what has been rejected. -/
def finish (draft : Draft) (maxLimit : Nat) (e : Entity) : Except (List Failure) Model :=
  if draft.failures.isEmpty then
    .ok
      { entity := e
        groups := draft.groups
        order := (draft.order.mergeSort fun a b => a.1 ≤ b.1).map (·.2)
        select := draft.select
        includes := draft.includes
        skip := draft.skip
        limit := pageSize maxLimit draft.limit
        terms := draft.terms }
  else .error draft.failures

variable {draft : Draft}

/-- A part is no failure. -/
@[simp] theorem failures_put (draft : Draft) (part : Part) :
    (draft.put part).failures = draft.failures := by
  cases part with
  | term t => by_cases ht : t.isEmpty <;> simp [put, ht]
  | _ => rfl

/-- A directive adds **its own failure**, if it is rejected, to those of any draft. -/
theorem failures_add (draft : Draft) (e : Entity) (d : Directive) :
    (draft.add e d).failures = draft.failures ++ (d.failure? e).toList := by
  rw [add, Directive.failure?]
  cases d.check e with
  | ok part => simp
  | error r => rfl

/-- A pass adds the failures of the directives, **in order**. -/
theorem failures_foldl_add (ds : List Directive) (draft : Draft) :
    (ds.foldl (add e) draft).failures = draft.failures ++ ds.filterMap (Directive.failure? e) := by
  induction ds generalizing draft with
  | nil => simp
  | cons d ds ih =>
      rw [List.foldl_cons, ih, failures_add, List.append_assoc, List.filterMap_cons]
      cases d.failure? e <;> rfl

/-- If no directive is rejected, a pass adds their parts. -/
theorem foldl_add_eq_foldl_put (h : ds.filterMap (Directive.failure? e) = []) (draft : Draft) :
    ds.foldl (add e) draft = (ds.filterMap (Directive.part? e)).foldl put draft := by
  induction ds generalizing draft with
  | nil => rfl
  | cons d ds ih =>
      obtain ⟨hd, hds⟩ := List.forall_mem_cons.mp (List.filterMap_eq_nil_iff.mp h)
      have hrest := ih (List.filterMap_eq_nil_iff.mpr hds)
      rw [Directive.failure?] at hd
      cases hcheck : d.check e with
      | error r => simp [hcheck] at hd
      | ok part =>
          have hpart : d.part? e = some part := by rw [Directive.part?, hcheck]; rfl
          rw [List.foldl_cons, List.filterMap_cons_some hpart, List.foldl_cons, hrest, add, hcheck]

/-- What a draft becomes with some more parts: each kind of parts is added to its own. -/
theorem foldl_put (parts : List Part) (draft : Draft) :
    parts.foldl put draft =
      { groups := (parts.filterMap Part.condition?).foldl
          (fun groups p => addCondition groups p.1 p.2) draft.groups
        order := draft.order ++ parts.filterMap Part.sortKey?
        select := (parts.filterMap Part.field?).foldl (addNamed (·.name)) draft.select
        includes := (parts.filterMap Part.relation?).foldl (addNamed (·.name)) draft.includes
        skip := (parts.filterMap Part.skip?).getLast?.elim draft.skip (min · maxOffset)
        limit := (parts.filterMap Part.limit?).getLast?.or draft.limit
        terms := draft.terms ++ parts.filterMap Part.term?
        failures := draft.failures } := by
  induction parts generalizing draft with
  | nil => simp
  | cons part parts ih =>
      rw [List.foldl_cons, ih]
      cases part with
      | condition kind c | relation r | field f => rfl
      | sortKey i k =>
          rw [put, List.append_assoc]
          rfl
      | skip n =>
          have hskip : (Part.skip n :: parts).filterMap Part.skip? =
              n :: parts.filterMap Part.skip? := rfl
          rw [hskip, List.getLast?_cons]
          cases (parts.filterMap Part.skip?).getLast? <;> rfl
      | limit n =>
          have hlimit : (Part.limit n :: parts).filterMap Part.limit? =
              n :: parts.filterMap Part.limit? := rfl
          rw [hlimit, List.getLast?_cons]
          cases (parts.filterMap Part.limit?).getLast? <;> rfl
      | term t =>
          by_cases ht : t.isEmpty
          · have hterm : (Part.term t :: parts).filterMap Part.term? =
                parts.filterMap Part.term? := List.filterMap_cons_none (if_pos ht)
            rw [put, if_pos ht, hterm]
            rfl
          · have hterm : (Part.term t :: parts).filterMap Part.term? =
                t :: parts.filterMap Part.term? := List.filterMap_cons_some (if_neg ht)
            rw [put, if_neg ht, hterm, List.append_assoc]
            rfl

/-- A draft of some parts becomes the model that they make up. -/
theorem finish_foldl_put (parts : List Part) (maxLimit : Nat) (e : Entity) :
    (parts.foldl put empty).finish maxLimit e = .ok (.ofParts e maxLimit parts) := by
  have hskip : (parts.filterMap Part.skip?).getLast?.elim 0 (min · maxOffset) =
      min ((parts.filterMap Part.skip?).getLast?.getD 0) maxOffset := by
    cases (parts.filterMap Part.skip?).getLast? with
    | none => exact (Nat.zero_min _).symm
    | some n => rfl
  rw [foldl_put, finish, Model.ofParts, ← hskip]
  simp [empty]

/-- Directives are **built in one pass**. -/
theorem finish_foldl_add (ds : List Directive) (maxLimit : Nat) (e : Entity) :
    (ds.foldl (add e) empty).finish maxLimit e = Model.build ds maxLimit e := by
  by_cases hnil : ds.filterMap (Directive.failure? e) = []
  · rw [build_eq_ok hnil, foldl_add_eq_foldl_put hnil, finish_foldl_put]
  · have hfailures : (ds.foldl (add e) empty).failures = ds.filterMap (Directive.failure? e) :=
      failures_foldl_add ds empty
    rw [build_eq_error hnil, finish, hfailures, if_neg]
    simpa using hnil

end Draft

/-! ### What is reported -/

/-- The failures that a result **reports**. -/
def failuresOf {α : Type} : Except (List Failure) α → List Failure
  | .ok _ => []
  | .error failures => failures

/-- A draft reports what has been rejected. -/
theorem failuresOf_finish (draft : Draft) (maxLimit : Nat) (e : Entity) :
    failuresOf (draft.finish maxLimit e) = draft.failures := by
  rw [Draft.finish]
  by_cases hnil : draft.failures = []
  · rw [if_pos (List.isEmpty_iff.mpr hnil), hnil]
    rfl
  · rw [if_neg (mt List.isEmpty_iff.mp hnil)]
    rfl

/-- The failures that are reported for some directives. -/
def reported (ds : List Directive) (maxLimit : Nat) (e : Entity) : List Failure :=
  failuresOf (Model.build ds maxLimit e)

/-- What is reported is what a pass over the directives collects. -/
theorem reported_eq (ds : List Directive) (maxLimit : Nat) (e : Entity) :
    reported ds maxLimit e = ds.filterMap (Directive.failure? e) := by
  rw [reported, ← Draft.finish_foldl_add, failuresOf_finish, Draft.failures_foldl_add]
  rfl

/-- Of a directive alone, at most one failure is reported. -/
theorem reported_singleton (d : Directive) (maxLimit : Nat) (e : Entity) :
    reported [d] maxLimit e = (d.failure? e).toList := by
  rw [reported_eq, List.filterMap_cons]
  cases d.failure? e <;> rfl

/-- What is reported is what is reported of **each directive** alone, in order. -/
theorem reported_eq_flatMap (ds : List Directive) (maxLimit : Nat) (e : Entity) :
    reported ds maxLimit e = ds.flatMap fun d => reported [d] maxLimit e := by
  simp only [reported_singleton]
  rw [reported_eq, List.filterMap_eq_flatMap_toList]

/-- A directive is reported with the text that it comes from. -/
theorem source_of_failure? {d : Directive} {failure : Failure} (h : d.failure? e = some failure) :
    failure.source = d.source := by
  rw [Directive.failure?] at h
  cases hcheck : d.check e with
  | ok part => simp [hcheck] at h
  | error r =>
      rw [hcheck] at h
      obtain rfl := Option.some.inj h
      rfl

/-- Directives are rejected exactly if something is reported. -/
theorem build_eq_error_iff {failures : List Failure} :
    Model.build ds maxLimit e = .error failures ↔
      failures ≠ [] ∧ failures = reported ds maxLimit e := by
  rw [reported_eq]
  exact collected_eq_error (fun h => ⟨_, build_eq_ok h⟩) build_eq_error

/-- So there is something to report exactly if they are rejected. -/
theorem exists_build_eq_error_iff :
    (∃ failures, Model.build ds maxLimit e = .error failures) ↔ reported ds maxLimit e ≠ [] := by
  constructor
  · rintro ⟨failures, h⟩
    obtain ⟨hne, rfl⟩ := build_eq_error_iff.mp h
    exact hne
  · intro hne
    exact ⟨_, build_eq_error_iff.mpr ⟨hne, rfl⟩⟩

/-- **Every directive is judged by itself.** In the one pass that building is, a directive adds
to what any draft has collected what is reported of it alone: nothing, or one failure with the
text that it comes from. So directives are rejected exactly if one of them is rejected alone, all
that is reported of each of them alone is then reported, in order, and what is reported of more
directives comes behind it. -/
theorem reported_each (ds more : List Directive) (maxLimit : Nat) (e : Entity) :
    (ds.foldl (Draft.add e) Draft.empty).finish maxLimit e = Model.build ds maxLimit e ∧
      (∀ (draft : Draft) (d : Directive),
        (draft.add e d).failures = draft.failures ++ reported [d] maxLimit e) ∧
      (∀ d : Directive, reported [d] maxLimit e = [] ∨
        ∃ message, reported [d] maxLimit e = [⟨d.source, message⟩]) ∧
      ((∃ failures, Model.build ds maxLimit e = .error failures) ↔
        ∃ d ∈ ds, ∃ failures, Model.build [d] maxLimit e = .error failures) ∧
      (∀ failures, Model.build ds maxLimit e = .error failures →
        failures = ds.flatMap fun d => reported [d] maxLimit e) ∧
      reported (ds ++ more) maxLimit e = reported ds maxLimit e ++ reported more maxLimit e := by
  refine ⟨Draft.finish_foldl_add ds maxLimit e, ?added, ?single, ?rejected, ?all, ?appended⟩
  case added =>
    intro draft d
    rw [Draft.failures_add, reported_singleton]
  case single =>
    intro d
    rw [reported_singleton]
    cases hd : d.failure? e with
    | none => exact .inl rfl
    | some failure =>
        refine .inr ⟨failure.message, ?_⟩
        rw [← source_of_failure? hd]
        rfl
  case rejected =>
    simp only [exists_build_eq_error_iff]
    rw [reported_eq_flatMap, Ne, List.flatMap_eq_nil_iff]
    simp only [not_forall, exists_prop, Ne]
  case all =>
    intro failures h
    rw [← reported_eq_flatMap]
    exact (build_eq_error_iff.mp h).2
  case appended =>
    simp only [reported_eq, List.filterMap_append]

/-! ### An example -/

namespace Sample

/-- Asks for fields and a relation that there are not, and for a bound that is no number,
between directives that are fine. -/
def mistaken : List Directive :=
  [.selection ⟨["Missing"], .equal, "1", .all, "filter[where][Missing]=1"⟩,
    .selection ⟨["Id"], .equal, "1", .all, "filter[where][Id]=1"⟩,
    .selection ⟨["Id"], .greaterThan, "x", .all, "filter[where][Id][gt]=x"⟩,
    .sorting ⟨0, "Nope", true, "filter[order]=Nope"⟩, .skip 3 "filter[skip]=3",
    .relation "Ghost" "filter[include]=Ghost", .freeText "late",
    .field "Gone" "filter[select]=Gone"]

/-- What is wrong with it. -/
def mistakes : List Failure :=
  [⟨"filter[where][Missing]=1", "'Missing' is not a field of 'Invoice'"⟩,
    ⟨"filter[where][Id][gt]=x", "'x' is not a valid integer"⟩,
    ⟨"filter[order]=Nope", "'Nope' is not a field of 'Invoice'"⟩,
    ⟨"filter[include]=Ghost", "'Ghost' is not a relation of 'Invoice'"⟩,
    ⟨"filter[select]=Gone", "'Gone' is not a field of 'Invoice'"⟩]

/-- It is rejected. -/
theorem build_mistaken : Model.build mistaken 100 invoices = .error mistakes := by
  rfl

end Sample

/-- All five mistakes of a request are reported, one directive at a time, and those of the
first three directives in front of the others. -/
theorem reported_each_mistaken :
    Sample.mistakes = Sample.mistaken.flatMap (fun d => reported [d] 100 Sample.invoices) ∧
      (∃ d ∈ Sample.mistaken, ∃ failures,
        Model.build [d] 100 Sample.invoices = .error failures) ∧
      reported Sample.mistaken 100 Sample.invoices =
        reported (Sample.mistaken.take 3) 100 Sample.invoices ++
          reported (Sample.mistaken.drop 3) 100 Sample.invoices := by
  obtain ⟨-, -, -, hrejected, hall, -⟩ := reported_each Sample.mistaken [] 100 Sample.invoices
  obtain ⟨-, -, -, -, -, happended⟩ :=
    reported_each (Sample.mistaken.take 3) (Sample.mistaken.drop 3) 100 Sample.invoices
  exact ⟨hall _ Sample.build_mistaken, hrejected.mp ⟨_, Sample.build_mistaken⟩, happended⟩

end Listing
