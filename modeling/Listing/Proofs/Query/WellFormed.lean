import Listing.Proofs.Search.Matching
import Listing.Proofs.Sql.Filter
import Listing.Proofs.Text.Splitting

/-!
# Built Models Are Well Formed

A model is put together in one pass over the directives, in whatever order they come, and
some of its parts are only settled at the end. A model that is built is **well formed**
(`Model.WellFormed`): its counts are within their bounds, there is at most one group of
each kind and none is empty, everything it names is declared by the entity for that use and
named once, and every operand goes with its operator and with the type of its field. This
is all that the stores need, so both take every such model.

## Main results

* `nodup_foldl_addNamed` — items that are added by name have distinct names.
* `String.trimmed_trimmed` — a trimmed text has no blanks left to trim.
* `wellFormed_ofParts` — sound parts make a well-formed model.
* `wellFormed_of_build` — every model that is built is well formed, and both stores take
  it.
-/

/-! ### Trimmed texts -/

/-- Trimming a string again leaves it. -/
theorem String.trimmed_trimmed (s : String) : s.trimmed.trimmed = s.trimmed := by
  rw [trimmed, trimmed, String.toList_ofList, Listing.Text.trim_trim]

namespace Listing

/-! ### Well-formed models -/

/-- A **well-formed** condition of an entity: the operand is of the kind that the operator
is for, and of the type of the field. -/
structure Condition.WellFormed (e : Entity) (c : Condition) : Prop where
  /-- The field is one of the entity. -/
  field_mem : c.field ∈ e.fields
  /-- Records may be selected by the field. -/
  filterable : c.field.filterable
  /-- Equality has alternatives, of which each is no value or one of the field's type. -/
  values : c.operator = .equal ∨ c.operator = .notEqual →
    ∃ vs, c.operand = .values vs ∧ vs ≠ [] ∧ ∀ v ∈ vs, v = .null ∨ v.IsOf c.field.type
  /-- A comparison has a bound that is there and of the field's type. -/
  bound : c.operator.isComparison →
    ∃ v, c.operand = .bound v ∧ v ≠ .null ∧ v.IsOf c.field.type
  /-- A test of texts has a pattern, and is of a text. -/
  pattern : c.operator.isPattern → ∃ p, c.operand = .pattern p ∧ c.field.type = .text

/-- A **well-formed** model of an entity whose largest page is `maxLimit`. -/
structure Model.WellFormed (e : Entity) (maxLimit : Nat) (m : Model) : Prop where
  /-- It is a model of the entity. -/
  entity_eq : m.entity = e
  /-- The stores can skip as many records. -/
  skip_le : m.skip ≤ maxOffset
  /-- The page is not larger than the largest one. -/
  limit_le : m.limit ≤ maxLimit
  /-- The stores can return as many records. -/
  limit_le_maxOffset : m.limit ≤ maxOffset
  /-- The page has room for a record if any page has. -/
  limit_pos : 0 < maxLimit → 0 < m.limit
  /-- There is at most one group of each kind. -/
  kinds_nodup : (m.groups.map (·.kind)).Nodup
  /-- No group is empty. -/
  conditions_ne_nil : ∀ g ∈ m.groups, g.conditions ≠ []
  /-- Every condition is well formed. -/
  conditions : ∀ g ∈ m.groups, ∀ c ∈ g.conditions, c.WellFormed e
  /-- Records are ordered by orderable fields. -/
  order : ∀ k ∈ m.order, k.field ∈ e.fields ∧ k.field.orderable
  /-- The selected fields have distinct names. -/
  select_nodup : (m.select.map (·.name)).Nodup
  /-- The selected fields are declared. -/
  select_mem : ∀ f ∈ m.select, f ∈ e.fields
  /-- The relations that are followed have distinct names. -/
  includes_nodup : (m.includes.map (·.name)).Nodup
  /-- The relations that are followed are declared. -/
  includes_mem : ∀ r ∈ m.includes, r ∈ e.relations
  /-- Every text to find is trimmed and not empty. -/
  terms : ∀ t ∈ m.terms, t.trimmed = t ∧ t ≠ ""

/-- No comparison is a test of texts. -/
theorem Operator.isPattern_of_isComparison {op : Operator} (h : op.isComparison) :
    op.isPattern = false := by
  cases op <;> first | rfl | cases h

/-- A sound condition is **well formed**: an operand of one kind goes with no operator of
another. -/
theorem Condition.Sound.wellFormed {e : Entity} {c : Condition} (h : c.Sound e) :
    c.WellFormed e := by
  obtain ⟨f, op, operand, source⟩ := c
  obtain ⟨hmem, hfilterable, hsuits⟩ := h
  refine ⟨hmem, hfilterable, ?values, ?bound, ?pattern⟩
  case values =>
    rintro (rfl | rfl)
    all_goals
      cases operand with
      | values vs => exact ⟨vs, rfl, hsuits.2⟩
      | bound v | pattern p => exact nomatch hsuits.1
  case bound =>
    intro hop
    cases operand with
    | values vs => obtain ⟨rfl | rfl, -⟩ := hsuits <;> cases hop
    | bound v =>
        refine ⟨v, rfl, ?_, hsuits.2⟩
        rintro rfl
        cases hsuits.2.1
    | pattern p =>
        have hpattern : op.isPattern := hsuits.1
        rw [Operator.isPattern_of_isComparison hop] at hpattern
        cases hpattern
  case pattern =>
    intro hop
    cases operand with
    | values vs => obtain ⟨rfl | rfl, -⟩ := hsuits <;> cases hop
    | bound v =>
        have hpattern : op.isPattern = false := Operator.isPattern_of_isComparison hsuits.1
        rw [hpattern] at hop
        cases hop
    | pattern p => exact ⟨p, rfl, hsuits.2⟩

/-! ### Items that are added -/

section Added

variable {α : Type} (nameOf : α → String)

/-- Adding an item by name keeps names distinct. -/
theorem nodup_addNamed {items : List α} (h : (items.map nameOf).Nodup) (a : α) :
    ((addNamed nameOf items a).map nameOf).Nodup := by
  unfold addNamed
  split
  · exact h
  · next hnew =>
    rw [List.map_append, List.map_singleton, List.nodup_append]
    refine ⟨h, by simp, ?_⟩
    rintro name hname other hother rfl
    obtain ⟨b, hb, hsame⟩ := List.mem_map.mp hname
    rw [List.mem_singleton] at hother
    subst hother
    exact hnew (List.any_eq_true.mpr ⟨b, hb, beq_iff_eq.mpr hsame⟩)

/-- What is added by name is one of the items that there were or the new one. -/
theorem mem_addNamed {items : List α} {a b : α} (h : b ∈ addNamed nameOf items a) :
    b ∈ items ∨ b = a := by
  unfold addNamed at h
  split at h
  · exact .inl h
  · simpa using h

/-- Items that are added by name have **distinct names**. -/
theorem nodup_foldl_addNamed (added : List α) :
    ((added.foldl (addNamed nameOf) []).map nameOf).Nodup :=
  List.foldlRecOn (motive := fun items : List α => (items.map nameOf).Nodup) added _ List.nodup_nil
    fun _ h a _ => nodup_addNamed nameOf h a

/-- Only what is added is there. -/
theorem mem_of_foldl_addNamed {added : List α} {b : α}
    (h : b ∈ added.foldl (addNamed nameOf) []) : b ∈ added := by
  revert h
  refine List.foldlRecOn (motive := fun items : List α => b ∈ items → b ∈ added) added _ ?_ ?_
  · exact fun h => nomatch h
  · intro items ih a ha h
    rcases mem_addNamed nameOf h with h | rfl
    · exact ih h
    · exact ha

end Added

/-- What holds of no groups and is kept when a condition is added **holds of the groups** of
any conditions. -/
theorem foldl_addCondition {P : List Group → Prop} (hnil : P [])
    (hadd : ∀ {groups}, P groups → ∀ kind c, P (addCondition groups kind c))
    (added : List (GroupKind × Condition)) :
    P (added.foldl (fun groups p => addCondition groups p.1 p.2) []) :=
  List.foldlRecOn added _ hnil fun _ h p _ => hadd h p.1 p.2

/-- Adding a condition leaves no group empty. -/
theorem conditions_ne_nil_addCondition {groups : List Group}
    (h : ∀ g ∈ groups, g.conditions ≠ []) (kind : GroupKind) (c : Condition) :
    ∀ g ∈ addCondition groups kind c, g.conditions ≠ [] := by
  induction groups with
  | nil => simp [addCondition]
  | cons g rest ih =>
      obtain ⟨hg, hrest⟩ := List.forall_mem_cons.mp h
      unfold addCondition
      split
      · exact List.forall_mem_cons.mpr ⟨by simp, hrest⟩
      · exact List.forall_mem_cons.mpr ⟨hg, ih hrest⟩

/-- A page has room for a record if the largest one has. -/
theorem pageSize_pos {maxLimit : Nat} (h : 0 < maxLimit) (asked : Option Nat) :
    0 < pageSize maxLimit asked := by
  have hoffset : 0 < maxOffset := by decide
  cases asked with
  | none => exact Nat.lt_min.mpr ⟨h, hoffset⟩
  | some n =>
      refine Nat.lt_min.mpr ⟨?_, hoffset⟩
      split
      · exact h
      · exact Nat.lt_min.mpr ⟨by omega, h⟩

/-- A page is never larger than the largest one. -/
theorem pageSize_le_maxLimit (maxLimit : Nat) (asked : Option Nat) :
    pageSize maxLimit asked ≤ maxLimit := by
  cases asked with
  | none => exact Nat.min_le_left _ _
  | some n =>
      refine (Nat.min_le_left _ _).trans ?_
      split
      · exact Nat.le_refl _
      · exact Nat.min_le_right _ _

/-! ### Models -/

/-- A condition of a group is one of its kind. -/
theorem mem_conditionsOf {m : Model} {g : Group} (hg : g ∈ m.groups) {c : Condition}
    (hc : c ∈ g.conditions) : c ∈ m.conditionsOf g.kind :=
  List.mem_flatMap.mpr ⟨g, List.mem_filter.mpr ⟨hg, by simp⟩, hc⟩

/-- A model that is built is **well formed**. -/
theorem Model.wellFormed_ofParts {ds : List Directive} (maxLimit : Nat) (e : Entity) :
    (ofParts e maxLimit (ds.filterMap (Directive.part? e))).WellFormed e maxLimit where
  entity_eq := rfl
  skip_le := Nat.min_le_right _ _
  limit_le := pageSize_le_maxLimit _ _
  limit_le_maxOffset := pageSize_le _ _
  limit_pos h := pageSize_pos h _
  kinds_nodup :=
    foldl_addCondition (P := fun groups => (groups.map (·.kind)).Nodup) List.nodup_nil
      (fun h => nodup_addCondition h) _
  conditions_ne_nil :=
    foldl_addCondition (P := fun groups => ∀ g ∈ groups, g.conditions ≠ [])
      (fun _ h => nomatch h) (fun h => conditions_ne_nil_addCondition h) _
  conditions g hg c hc := (sound_of_mem (mem_conditionsOf hg hc)).wellFormed
  order := by
    intro k hk
    obtain ⟨⟨i, k'⟩, hpair, rfl⟩ := List.mem_map.mp hk
    obtain ⟨part, hpart, hkey⟩ := List.mem_filterMap.mp (List.mem_mergeSort.mp hpair)
    have hsound := sound_of_mem_parts hpart
    cases part with
    | sortKey j k'' =>
        obtain ⟨-, rfl⟩ : j = i ∧ k'' = k' := by simpa [Part.sortKey?] using hkey
        exact hsound
    | _ => cases hkey
  select_nodup := nodup_foldl_addNamed _ _
  select_mem := by
    intro f hf
    obtain ⟨part, hpart, hfield⟩ := List.mem_filterMap.mp (mem_of_foldl_addNamed _ hf)
    have hsound := sound_of_mem_parts hpart
    cases part with
    | field f' =>
        obtain rfl : f' = f := Option.some.inj hfield
        exact hsound
    | _ => cases hfield
  includes_nodup := nodup_foldl_addNamed _ _
  includes_mem := by
    intro r hr
    obtain ⟨part, hpart, hrelation⟩ := List.mem_filterMap.mp (mem_of_foldl_addNamed _ hr)
    have hsound := sound_of_mem_parts hpart
    cases part with
    | relation r' =>
        obtain rfl : r' = r := Option.some.inj hrelation
        exact hsound
    | _ => cases hrelation
  terms := by
    intro t ht
    obtain ⟨part, hpart, hterm⟩ := List.mem_filterMap.mp ht
    have hsound := sound_of_mem_parts hpart
    cases part with
    | term t' =>
        simp only [Part.term?] at hterm
        split at hterm
        · cases hterm
        · next hne =>
          obtain rfl : t' = t := Option.some.inj hterm
          obtain ⟨text, rfl⟩ := hsound
          exact ⟨text.trimmed_trimmed, fun hempty => hne (by rw [hempty]; rfl)⟩
    | _ => cases hterm

/-- So a model that is built is well formed. -/
theorem Model.WellFormed.of_build {ds : List Directive} {maxLimit : Nat} {e : Entity} {m : Model}
    (h : Model.build ds maxLimit e = .ok m) : m.WellFormed e maxLimit := by
  rw [eq_of_build h]
  exact Model.wellFormed_ofParts maxLimit e

/-- Both stores **take** a sound model. -/
theorem Model.Sound.taken {m : Model} (hm : m.Sound) :
    (∃ text, Sql.countText m = .ok text) ∧ (∃ text, Sql.pageText m = .ok text) ∧
      ∃ clause, Search.queryClause m = .ok clause := by
  have hfilter := Sql.filterOf_eq hm
  refine ⟨?count, ?page, ?query⟩
  case count =>
    rw [Sql.countText, Sql.countStatement, hfilter]
    exact ⟨_, rfl⟩
  case page =>
    rw [Sql.pageText, Sql.pageStatement, hfilter]
    exact ⟨_, rfl⟩
  case query =>
    rw [Search.queryClause, Search.whereClause_eq hm]
    exact ⟨_, rfl⟩

/-- Whatever is asked for, a model that is built is **well formed**, and both stores take
it. -/
theorem wellFormed_of_build {ds : List Directive} {maxLimit : Nat} {e : Entity} {m : Model}
    (h : Model.build ds maxLimit e = .ok m) :
    m.WellFormed e maxLimit ∧ (∃ text, Sql.countText m = .ok text) ∧
      (∃ text, Sql.pageText m = .ok text) ∧ ∃ clause, Search.queryClause m = .ok clause := by
  refine ⟨?_, (sound_of_build h).taken⟩
  rw [eq_of_build h]
  exact Model.wellFormed_ofParts maxLimit e

/-! ### An example -/

namespace Sample

/-- Skips more invoices than can be counted, asks for a page of none, names a field twice
and looks for a text between blanks. -/
def careless : List Directive :=
  [.skip (Number.countBound - 1) "", .limit 0 "", .field "note" "", .field "Note" "",
    .selection ⟨["ID"], .notEqual, "7|null", .any, ""⟩, .sorting ⟨2, "id", false, ""⟩,
    .freeText " late\t", .freeText " "]

/-- The model of what is asked for. -/
def carelessModel : Model :=
  .ofParts invoices 10
    [.skip (Number.countBound - 1), .limit 0, .field note, .field note,
      .condition .any ⟨.ofName "Id" .integer, .notEqual, .values [.integer 7, .null], ""⟩,
      .sortKey 2 ⟨.ofName "Id" .integer, false⟩, .term "late", .term ""]

/-- It is built. -/
theorem build_careless : Model.build careless 10 invoices = .ok carelessModel := by
  rfl

end Sample

/-- What is asked for carelessly is well formed and taken by both stores all the same: its
counts are cut to their bounds, the field is selected once, and one text is left to find. -/
theorem wellFormed_careless :
    Sample.carelessModel.WellFormed Sample.invoices 10 ∧
      (∃ text, Sql.countText Sample.carelessModel = .ok text) ∧
      (∃ text, Sql.pageText Sample.carelessModel = .ok text) ∧
      (∃ clause, Search.queryClause Sample.carelessModel = .ok clause) ∧
      Sample.carelessModel.skip = Number.maxSigned ∧ Sample.carelessModel.limit = 10 ∧
      Sample.carelessModel.select = [Sample.note] ∧ Sample.carelessModel.terms = ["late"] := by
  obtain ⟨hwell, hcount, hpage, hquery⟩ := wellFormed_of_build Sample.build_careless
  exact ⟨hwell, hcount, hpage, hquery, rfl, rfl, rfl, rfl⟩

end Listing
