import Listing.Proofs.Query.Building
import Listing.Proofs.Results
import Listing.Search.Compile
import Listing.Sql.Compile

/-!
# Only the Order Inside a Kind Matters

Directives are of **kinds** (`Directive.kind`): the conditions of either group, the keys of the
order at each position, and so on. Lists are **interleaved** (`Interleaved`) if those of each
kind are the same and in the same order. Interleaved directives ask for the same: the models
that they make up may have their groups in another order, but no statement and no clause shows
it.

## Main results

* `Interleaved.perm`, `Interleaved.filterMap` — interleaved lists have the same items, and what
  is made of each item on its own is interleaved again.
* `Interleaved.mergeSort_eq` — a stable sort forgets how the keys were interleaved.
* `agrees_of_interleaved` — interleaved parts make up models that agree but for the order of
  the groups.
* `Model.Agrees.countText_eq`, `Model.Agrees.pageText_eq`, `Model.Agrees.queryClause_eq` — the
  stores are asked the same for models that agree.
* `build_interleaved` — so only the order inside a kind matters.
-/

namespace Listing

/-! ### Interleaved lists -/

/-- Lists are **interleaved** if for each kind they have the same items of that kind, in the
same order. -/
def Interleaved {α κ : Type} [DecidableEq κ] (kind : α → κ) (xs ys : List α) : Prop :=
  ∀ k, xs.filter (kind · = k) = ys.filter (kind · = k)

namespace Interleaved

variable {α β κ ι : Type} [DecidableEq κ] [DecidableEq ι] {kind : α → κ} {xs ys : List α}

/-- Only the kinds of the items need to be looked at. -/
theorem iff_forall_mem : Interleaved kind xs ys ↔
    ∀ a ∈ xs ++ ys, xs.filter (kind · = kind a) = ys.filter (kind · = kind a) := by
  constructor
  · exact fun h a _ => h (kind a)
  · intro h k
    by_cases hk : ∃ a ∈ xs ++ ys, kind a = k
    · obtain ⟨a, ha, rfl⟩ := hk
      exact h a ha
    · have hnone : ∀ a ∈ xs ++ ys, ¬ kind a = k := fun a ha hak => hk ⟨a, ha, hak⟩
      rw [List.filter_eq_nil_iff.mpr, List.filter_eq_nil_iff.mpr]
      · exact fun a ha => by simpa using hnone a (List.mem_append_right _ ha)
      · exact fun a ha => by simpa using hnone a (List.mem_append_left _ ha)

instance [DecidableEq α] : Decidable (Interleaved kind xs ys) :=
  decidable_of_iff _ iff_forall_mem.symm

/-- Interleaved lists have the same items. -/
theorem perm (h : Interleaved kind xs ys) : xs.Perm ys := by
  classical
  rw [List.perm_iff_count]
  intro a
  have hcount : ∀ zs : List α, (zs.filter (kind · = kind a)).count a = zs.count a :=
    fun zs => List.count_filter (by simp)
  rw [← hcount xs, h (kind a), hcount ys]

/-- Without a first item that is the same, they still are. -/
theorem tail {a : α} (h : Interleaved kind (a :: xs) (a :: ys)) : Interleaved kind xs ys := by
  intro k
  have hk := h k
  by_cases hak : kind a = k
  · simpa [hak] using hk
  · simpa [hak] using hk

/-- What is made of each item on its own is **interleaved** again, if its kind says of which
kind the item was. -/
theorem filterMap (h : Interleaved kind xs ys) {f : α → Option β} {kind' : β → ι} (embed : ι → κ)
    (hembed : Function.Injective embed) (hf : ∀ a b, f a = some b → kind a = embed (kind' b)) :
    Interleaved kind' (xs.filterMap f) (ys.filterMap f) := by
  have hfilter : ∀ (k : ι) (zs : List α), (zs.filterMap f).filter (kind' · = k) =
      (zs.filter (kind · = embed k)).filterMap f := by
    intro k zs
    induction zs with
    | nil => rfl
    | cons z zs ih =>
        cases hz : f z with
        | none =>
            rw [List.filterMap_cons_none hz, ih, List.filter_cons]
            split
            · rw [List.filterMap_cons_none hz]
            · rfl
        | some b =>
            have hkind : kind z = embed k ↔ kind' b = k := by
              rw [hf z b hz]
              exact hembed.eq_iff
            rw [List.filterMap_cons_some hz, List.filter_cons, List.filter_cons, ih]
            by_cases hb : kind' b = k
            · simp [hb, hkind.mpr hb, hz]
            · simp [hb, mt hkind.mp hb]
  intro k
  rw [hfilter, hfilter, h (embed k)]

/-- If all that is made is of one kind, the same is made. -/
theorem filterMap_eq (h : Interleaved kind xs ys) {f : α → Option β} {k : κ}
    (hf : ∀ a b, f a = some b → kind a = k) : xs.filterMap f = ys.filterMap f := by
  have hone : Interleaved (fun _ => ()) (xs.filterMap f) (ys.filterMap f) :=
    h.filterMap (fun _ => k) (fun _ _ _ => rfl) hf
  have hfilter := hone ()
  rwa [List.filter_eq_self.mpr (by simp), List.filter_eq_self.mpr (by simp)] at hfilter

end Interleaved

/-! ### Sorting by a key -/

section SortByKey

variable {α : Type} {xs ys : List (Nat × α)}

/-- Comparing keys is transitive. -/
theorem trans_fst (a b c : Nat × α) (hab : decide (a.1 ≤ b.1) = true)
    (hbc : decide (b.1 ≤ c.1) = true) : decide (a.1 ≤ c.1) = true :=
  decide_eq_true (Nat.le_trans (of_decide_eq_true hab) (of_decide_eq_true hbc))

/-- Any two keys can be compared. -/
theorem total_fst (a b : Nat × α) : (decide (a.1 ≤ b.1) || decide (b.1 ≤ a.1)) = true := by
  simpa using Nat.le_total a.1 b.1

/-- Sorting by a key gives a list that is sorted. -/
theorem pairwise_mergeSort_fst (xs : List (Nat × α)) :
    (xs.mergeSort fun a b => a.1 ≤ b.1).Pairwise fun a b => a.1 ≤ b.1 := by
  simpa using List.pairwise_mergeSort trans_fst total_fst xs

/-- Sorting is **stable**: the items of each key keep their order. -/
theorem filter_mergeSort (xs : List (Nat × α)) (k : Nat) :
    (xs.mergeSort fun a b => a.1 ≤ b.1).filter (·.1 = k) = xs.filter (·.1 = k) := by
  have hkeys : ∀ a ∈ xs.filter (·.1 = k), a.1 = k := by
    intro a ha
    simpa using (List.mem_filter.mp ha).2
  have hpairwise : (xs.filter (·.1 = k)).Pairwise fun a b => decide (a.1 ≤ b.1) = true := by
    refine List.pairwise_of_forall_mem_list fun a ha b hb => ?_
    rw [hkeys a ha, hkeys b hb]
    exact decide_eq_true (Nat.le_refl k)
  have hsub := List.sublist_mergeSort trans_fst total_fst hpairwise List.filter_sublist
  have hfilter := hsub.filter (·.1 = k)
  rw [List.filter_eq_self.mpr fun a ha => decide_eq_true (hkeys a ha)] at hfilter
  exact (hfilter.eq_of_length ((List.mergeSort_perm _ _).filter _).length_eq.symm).symm

/-- Lists that are sorted by a key are the same if they are interleaved. -/
theorem Interleaved.eq_of_pairwise (hx : xs.Pairwise fun a b => a.1 ≤ b.1)
    (hy : ys.Pairwise fun a b => a.1 ≤ b.1) (h : Interleaved Prod.fst xs ys) : xs = ys := by
  induction xs generalizing ys with
  | nil => exact h.perm.nil_eq
  | cons x xs ih =>
      cases ys with
      | nil => exact h.perm.eq_nil
      | cons y ys =>
          obtain ⟨hxs, hxtail⟩ := List.pairwise_cons.mp hx
          obtain ⟨hys, hytail⟩ := List.pairwise_cons.mp hy
          -- each of the first items is in the other list, so their keys are the same
          have hle : x.1 ≤ y.1 := by
            rcases List.mem_cons.mp (h.perm.mem_iff.mpr List.mem_cons_self) with rfl | hmem
            · exact Nat.le_refl _
            · exact hxs y hmem
          have hge : y.1 ≤ x.1 := by
            rcases List.mem_cons.mp (h.perm.mem_iff.mp List.mem_cons_self) with rfl | hmem
            · exact Nat.le_refl _
            · exact hys x hmem
          have hkey : y.1 = x.1 := Nat.le_antisymm hge hle
          have hfirst := h x.1
          rw [List.filter_cons_of_pos (by simp), List.filter_cons_of_pos (by simpa using hkey)]
            at hfirst
          obtain rfl := (List.cons.inj hfirst).1
          rw [ih hxtail hytail h.tail]

/-- A stable sort **forgets** how the items of different keys were interleaved. -/
theorem Interleaved.mergeSort_eq (h : Interleaved Prod.fst xs ys) :
    (xs.mergeSort fun a b => a.1 ≤ b.1) = ys.mergeSort fun a b => a.1 ≤ b.1 := by
  refine Interleaved.eq_of_pairwise (pairwise_mergeSort_fst xs) (pairwise_mergeSort_fst ys) ?_
  intro k
  rw [filter_mergeSort, filter_mergeSort, h k]

end SortByKey

/-! ### Kinds of directives -/

/-- The **kinds** of directives. -/
inductive Directive.Kind where
  /-- Conditions of a group. -/
  | condition (group : GroupKind)
  /-- Keys of the order at a position. -/
  | sortKey (index : Nat)
  /-- Numbers of records to skip. -/
  | skip
  /-- Numbers of records to return. -/
  | limit
  /-- Relations to follow. -/
  | relation
  /-- Fields to return. -/
  | field
  /-- Texts to find. -/
  | freeText
deriving DecidableEq, Repr

/-- The kind of a directive. -/
def Directive.kind : Directive → Kind
  | selection s => .condition s.group
  | sorting s => .sortKey s.index
  | skip _ _ => .skip
  | limit _ _ => .limit
  | relation _ _ => .relation
  | field _ _ => .field
  | freeText _ => .freeText

/-- The kind of the directives that add a part. -/
def Part.kind : Part → Directive.Kind
  | condition group _ => .condition group
  | sortKey index _ => .sortKey index
  | skip _ => .skip
  | limit _ => .limit
  | relation _ => .relation
  | field _ => .field
  | term _ => .freeText

/-- What a directive adds is of its kind. -/
theorem kind_of_part? {e : Entity} {d : Directive} {p : Part} (h : d.part? e = some p) :
    d.kind = p.kind := by
  have hcheck : d.check e = .ok p := by
    unfold Directive.part? at h
    cases hd : d.check e with
    | error r =>
        rw [hd] at h
        cases h
    | ok q =>
        rw [hd] at h
        exact congrArg Except.ok (Option.some.inj h)
  cases d with
  | selection s =>
      obtain ⟨c, -, rfl⟩ := map_eq_ok.mp hcheck
      rfl
  | sorting s =>
      obtain ⟨k, -, rfl⟩ := map_eq_ok.mp hcheck
      rfl
  | skip n source | limit n source | freeText text =>
      obtain rfl := Except.ok.inj hcheck
      rfl
  | relation name source | field name source =>
      simp only [Directive.check] at hcheck
      split at hcheck
      · obtain rfl := Except.ok.inj hcheck
        rfl
      · cases hcheck

/-! ### Models that agree -/

/-- Models **agree** if they differ at most in the order of their groups. -/
structure Model.Agrees (m m' : Model) : Prop where
  /-- They are of one entity. -/
  entity : m.entity = m'.entity
  /-- The conditions of each group are the same. -/
  conditions : ∀ kind, m.conditionsOf kind = m'.conditionsOf kind
  /-- So is the order. -/
  order : m.order = m'.order
  /-- So are the fields that are asked for. -/
  select : m.select = m'.select
  /-- So are the relations. -/
  includes : m.includes = m'.includes
  /-- So is the start of the page. -/
  skip : m.skip = m'.skip
  /-- So is its size. -/
  limit : m.limit = m'.limit
  /-- So are the texts to find. -/
  terms : m.terms = m'.terms

/-- Interleaved parts make up models that **agree**. -/
theorem agrees_of_interleaved {ps ps' : List Part} (h : Interleaved Part.kind ps ps') (e : Entity)
    (maxLimit : Nat) : (Model.ofParts e maxLimit ps).Agrees (Model.ofParts e maxLimit ps') := by
  have hcondition : Interleaved Prod.fst (ps.filterMap Part.condition?)
      (ps'.filterMap Part.condition?) := by
    refine h.filterMap .condition (fun _ _ => Directive.Kind.condition.inj) ?_
    rintro (_ | _) b ⟨⟩
    rfl
  have hsortKey : Interleaved Prod.fst (ps.filterMap Part.sortKey?)
      (ps'.filterMap Part.sortKey?) := by
    refine h.filterMap .sortKey (fun _ _ => Directive.Kind.sortKey.inj) ?_
    rintro (_ | _) b ⟨⟩
    rfl
  have hskip : ps.filterMap Part.skip? = ps'.filterMap Part.skip? := by
    refine h.filterMap_eq (k := .skip) ?_
    rintro (_ | _) b ⟨⟩
    rfl
  have hlimit : ps.filterMap Part.limit? = ps'.filterMap Part.limit? := by
    refine h.filterMap_eq (k := .limit) ?_
    rintro (_ | _) b ⟨⟩
    rfl
  have hrelation : ps.filterMap Part.relation? = ps'.filterMap Part.relation? := by
    refine h.filterMap_eq (k := .relation) ?_
    rintro (_ | _) b ⟨⟩
    rfl
  have hfield : ps.filterMap Part.field? = ps'.filterMap Part.field? := by
    refine h.filterMap_eq (k := .field) ?_
    rintro (_ | _) b ⟨⟩
    rfl
  have hterm : ps.filterMap Part.term? = ps'.filterMap Part.term? := by
    refine h.filterMap_eq (k := .freeText) ?_
    intro p b hb
    cases p with
    | term t => rfl
    | _ => cases hb
  exact {
    entity := rfl
    conditions := fun kind => by
      rw [conditionsOf_ofParts, conditionsOf_ofParts, hcondition kind]
    order := congrArg (List.map Prod.snd) hsortKey.mergeSort_eq
    select := by simp only [Model.ofParts, hfield]
    includes := by simp only [Model.ofParts, hrelation]
    skip := by simp only [Model.ofParts, hskip]
    limit := by simp only [Model.ofParts, hlimit]
    terms := hterm }

namespace Model.Agrees

variable {m m' : Model} (h : m.Agrees m')
include h

/-- Either both or none of them asks for some fields only. -/
theorem isProjection_eq : m.isProjection = m'.isProjection := by
  rw [Model.isProjection, h.select, Model.isProjection]

/-- The relational store is asked for the same records. -/
theorem filterOf_eq : Sql.filterOf m = Sql.filterOf m' := by
  have hall : m.allConditions = m'.allConditions := h.conditions .all
  have hany : m.anyConditions = m'.anyConditions := h.conditions .any
  simp only [Sql.filterOf, Sql.whereClause?, hall, hany, h.terms, h.entity]

/-- The relational store is asked for the same number. -/
theorem countText_eq : Sql.countText m = Sql.countText m' := by
  simp only [Sql.countText, Sql.countStatement, h.filterOf_eq, h.entity]

/-- The relational store is asked for the same page. -/
theorem pageText_eq : Sql.pageText m = Sql.pageText m' := by
  have hfields : Sql.pageFields m = Sql.pageFields m' := by
    simp only [Sql.pageFields, h.isProjection_eq, h.select, h.entity]
  have horder : Sql.orderOf m = Sql.orderOf m' := by
    simp only [Sql.orderOf, h.order, h.entity]
  simp only [Sql.pageText, Sql.pageStatement, h.filterOf_eq, hfields, horder, h.entity, h.skip,
    h.limit]

/-- The search index is asked for the same documents. -/
theorem queryClause_eq : Search.queryClause m = Search.queryClause m' := by
  have hall : m.allConditions = m'.allConditions := h.conditions .all
  have hany : m.anyConditions = m'.anyConditions := h.conditions .any
  have hwhere : Search.whereClause m = Search.whereClause m' := by
    simp only [Search.whereClause, hall, hany]
  have hany? : m.hasTerms = m'.hasTerms := by rw [Model.hasTerms, h.terms, Model.hasTerms]
  have hterms : Search.termsClause? m = Search.termsClause? m' := by
    simp only [Search.termsClause?, hany?, h.terms, h.entity]
  simp only [Search.queryClause, hwhere, hterms]

/-- The search index is asked for the same order. -/
theorem sortJson_eq : Search.sortJson m = Search.sortJson m' := by
  simp only [Search.sortJson, h.order]

/-- The search index is asked for the same fields. -/
theorem sourceJson?_eq : Search.sourceJson? m = Search.sourceJson? m' := by
  simp only [Search.sourceJson?, h.isProjection_eq, h.select]

end Model.Agrees

/-! ### Building -/

/-- Directives of which **only the order of different kinds** differs ask for the same: either
both lists are rejected, with the same failures in perhaps another order, or both make up
models for which the stores are asked the same and the same relations are followed. -/
theorem build_interleaved {ds ds' : List Directive} (h : Interleaved Directive.kind ds ds')
    (maxLimit : Nat) (e : Entity) :
    (∃ failures failures', Model.build ds maxLimit e = .error failures ∧
      Model.build ds' maxLimit e = .error failures' ∧ failures.Perm failures') ∨
    ∃ m m', Model.build ds maxLimit e = .ok m ∧ Model.build ds' maxLimit e = .ok m' ∧
      Sql.countText m = Sql.countText m' ∧ Sql.pageText m = Sql.pageText m' ∧
      Search.queryClause m = Search.queryClause m' ∧ Search.sortJson m = Search.sortJson m' ∧
      Search.sourceJson? m = Search.sourceJson? m' ∧ m.includes = m'.includes := by
  have hfailures := h.perm.filterMap (Directive.failure? e)
  have hparts : Interleaved Part.kind (ds.filterMap (Directive.part? e))
      (ds'.filterMap (Directive.part? e)) :=
    h.filterMap id Function.injective_id fun _ _ => kind_of_part?
  have hagrees := agrees_of_interleaved hparts e maxLimit
  by_cases hnone : ds.filterMap (Directive.failure? e) = []
  · have hnone' : ds'.filterMap (Directive.failure? e) = [] := by
      rw [hnone] at hfailures
      exact hfailures.symm.eq_nil
    refine .inr ⟨_, _, build_eq_ok hnone, build_eq_ok hnone', ?_⟩
    exact ⟨hagrees.countText_eq, hagrees.pageText_eq, hagrees.queryClause_eq,
      hagrees.sortJson_eq, hagrees.sourceJson?_eq, hagrees.includes⟩
  · have hnone' : ds'.filterMap (Directive.failure? e) ≠ [] := by
      intro hnone'
      rw [hnone'] at hfailures
      exact hnone hfailures.eq_nil
    exact .inl ⟨_, _, build_eq_error hnone, build_eq_error hnone', hfailures⟩

namespace Sample

/-- A condition that is there twice, once in each group. -/
def numbered (group : GroupKind) : Directive := .selection ⟨["Id"], .equal, "7", group, ""⟩

/-- Directives with keys at two positions and two numbers of records to skip. -/
def ordered : List Directive :=
  [numbered .all, .selection ⟨["Note"], .notEqual, "", .all, ""⟩, numbered .any,
    .sorting ⟨0, "Id", false, ""⟩, .sorting ⟨2, "Note", true, ""⟩, .sorting ⟨2, "Id", true, ""⟩,
    .skip 3 "", .skip 5 "", .freeText "late"]

/-- The same with the kinds interleaved in another way. -/
def shuffled : List Directive :=
  [.skip 3 "", .sorting ⟨2, "Note", true, ""⟩, numbered .any, .freeText "late", numbered .all,
    .sorting ⟨0, "Id", false, ""⟩, .skip 5 "", .selection ⟨["Note"], .notEqual, "", .all, ""⟩,
    .sorting ⟨2, "Id", true, ""⟩]

/-- Their models. -/
def modelOf (ds : List Directive) : Model :=
  .ofParts invoices 100 (ds.filterMap (Directive.part? invoices))

end Sample

/-- The models of interleaved directives are not the same, and still the same is asked. -/
theorem build_interleaved_shuffled :
    (Sample.modelOf Sample.ordered).groups ≠ (Sample.modelOf Sample.shuffled).groups ∧
      ∃ m m', Model.build Sample.ordered 100 Sample.invoices = .ok m ∧
        Model.build Sample.shuffled 100 Sample.invoices = .ok m' ∧
        Sql.countText m = Sql.countText m' ∧ Sql.pageText m = Sql.pageText m' ∧
        Search.queryClause m = Search.queryClause m' ∧ Search.sortJson m = Search.sortJson m' ∧
        Search.sourceJson? m = Search.sourceJson? m' ∧ m.includes = m'.includes := by
  refine ⟨by decide +kernel, ?_⟩
  have hbuild : Model.build Sample.ordered 100 Sample.invoices =
      .ok (Sample.modelOf Sample.ordered) := rfl
  have hinterleaved : Interleaved Directive.kind Sample.ordered Sample.shuffled := by decide
  rcases build_interleaved hinterleaved 100 Sample.invoices with ⟨failures, -, herror, -⟩ | h
  · rw [hbuild] at herror
    cases herror
  · exact h

end Listing
