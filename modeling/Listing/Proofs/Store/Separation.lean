import Listing.Proofs.Store.LeftJoin

/-!
# Relations Beside Fields

What a relation adds to a record stands under its name, in the same record from which the
relations behind it read what they refer by. So relations get along with the fields, and with each
other, if no relation that is followed has the name of a field (`Apart`). Nothing in the rules for
entities makes sure of this: only two fields must not have one name.

The store is one that answers a statement always in the same way, an executor without a state.

## Main results

* `attached_map` — what a relation adds depends on declared fields only.
* `followAll_eq_filled` — relations apart from the fields add to a page what each would add alone.
* `followAll_of_perm` — so their order is of no account.
* `overwritten_of_followAll` — a field with the name of a relation is lost.
* `keepsFields_iff_apart` — a whole request keeps fields just if the relations are apart from them,
  and then it ignores their order.
-/

namespace Listing.Store

variable {registry : Registry} {e : Entity} {r : Relation} {executor : Executor Id}

/-! ### Kept fields -/

/-- Relations are **apart** from the fields of an entity if none has the name of a field. -/
def Apart (e : Entity) (relations : List Relation) : Prop :=
  ∀ r ∈ relations, ∀ f ∈ e.fields, r.name ≠ f.name

instance (e : Entity) (relations : List Relation) : Decidable (Apart e relations) :=
  inferInstanceAs (Decidable (∀ r ∈ relations, ∀ f ∈ e.fields, r.name ≠ f.name))

/-- A record **keeps** its fields if every declared field is as it was. -/
def Kept (e : Entity) (record found : Members) : Prop :=
  ∀ f ∈ e.fields, Members.get? f.name found = Members.get? f.name record

/-- Records refer to each other by declared fields. -/
theorem exists_referenceOf (hr : r ∈ e.relations) : ∃ f ∈ e.fields, f.name = referenceOf e r := by
  cases hlink : r.link with
  | hasMany foreignKey => exact ⟨e.identity, e.identity_mem, by rw [referenceOf, hlink]⟩
  | belongsTo field =>
      obtain ⟨f, hf, hname⟩ := Option.map_eq_some_iff.mp (field?_of_belongsTo hr hlink)
      refine ⟨f, mem_of_findNamed hf, ?_⟩
      simp only [referenceOf, hlink, hf, Option.map_some, Option.getD_some]

/-- A record that keeps its fields has what it **refers** by. -/
theorem Kept.get?_referenceOf {record found : Members} (h : Kept e record found)
    (hr : r ∈ e.relations) :
    Members.get? (referenceOf e r) found = Members.get? (referenceOf e r) record := by
  obtain ⟨f, hf, hname⟩ := exists_referenceOf hr
  rw [← hname, h f hf]

/-! ### One relation -/

/-- The related records of a page, for which there may be nothing to ask. -/
def relatedOf (executor : Executor Id) (join : Join) (page : List Members) :
    Except BackendError (List Members) :=
  match join.statement? page with
  | none => .ok []
  | some statement => (executor.records statement).run

/-- What a relation **adds** to the records of a page, if its statement is answered: its name, and
for each record what it gets under this name. -/
def attached (executor : Executor Id) (registry : Registry) (e : Entity) (page : List Members)
    (r : Relation) : Except QueryError (String × (Members → Json)) :=
  match resolve registry e r with
  | .error err => .error err
  | .ok join => ((relatedOf executor join page).mapError .backend).map fun related =>
      (r.name, joinedValue r.link (referenceOf e r) join.key.name related)

/-- Following a relation **adds** this to each record. -/
theorem follow_eq_attached (hr : r ∈ e.relations) (page : List Members) :
    (follow executor registry e r page).run =
      (attached executor registry e page r).map fun added =>
        page.map fun record => Members.insert added.1 (added.2 record) record := by
  cases hjoin : resolve registry e r with
  | error err => rw [follow, attached, hjoin]; rfl
  | ok join =>
      simp only [follow, attached, hjoin, attach_eq_joined hr hjoin, relatedOf]
      cases join.statement? page with
      | none => rfl
      | some statement =>
          obtain ⟨answer, hanswer⟩ : ∃ answer : Except BackendError (List Members),
              executor.records statement = pure answer := ⟨_, rfl⟩
          simp only [hanswer, pure_bind, Id.run_pure]
          cases answer with
          | error err => rfl
          | ok related => rfl

/-- What a relation adds are the rows that belong to a record. -/
theorem attached_cases {page : List Members} {added : String × (Members → Json)}
    (h : attached executor registry e page r = .ok added) : ∃ key related,
      added = (r.name, joinedValue r.link (referenceOf e r) key related) := by
  cases hjoin : resolve registry e r with
  | error err => rw [attached, hjoin] at h; cases h
  | ok join =>
      rw [attached, hjoin] at h
      obtain ⟨related, -, rfl⟩ := map_eq_ok.mp h
      exact ⟨_, related, rfl⟩

/-- It stands under the **name** of the relation. -/
theorem fst_of_attached {page : List Members} {added : String × (Members → Json)}
    (h : attached executor registry e page r = .ok added) : added.1 = r.name := by
  obtain ⟨key, related, rfl⟩ := attached_cases h
  rfl

/-- It is **no value** by which records refer to each other. -/
theorem isScalar_of_attached {page : List Members} {added : String × (Members → Json)}
    (h : attached executor registry e page r = .ok added) (record : Members) :
    isScalar (added.2 record) = false := by
  obtain ⟨key, related, rfl⟩ := attached_cases h
  simp only [joinedValue]
  cases r.link with
  | hasMany foreignKey => rfl
  | belongsTo field =>
      cases (related.filter fun row => Belongs (referenceOf e r) key record row).getLast? with
      | none => rfl
      | some row => rfl

/-- It is the **same** for a record that keeps its fields. -/
theorem Kept.snd_of_attached {record found : Members} (hkept : Kept e record found)
    (hr : r ∈ e.relations) {page : List Members} {added : String × (Members → Json)}
    (h : attached executor registry e page r = .ok added) : added.2 found = added.2 record := by
  obtain ⟨key, related, rfl⟩ := attached_cases h
  have hkey : keyAt? (referenceOf e r) found = keyAt? (referenceOf e r) record := by
    rw [keyAt?, keyAt?, hkept.get?_referenceOf hr]
  have hrows : (related.filter fun row => Belongs (referenceOf e r) key found row) =
      related.filter fun row => Belongs (referenceOf e r) key record row :=
    List.filter_congr fun row _ => decide_eq_decide.mpr (by rw [Belongs, Belongs, hkey])
  simp only [joinedValue, hrows]

/-- What a relation adds to a page depends on declared fields **only**. -/
theorem attached_map (hr : r ∈ e.relations) {f : Members → Members}
    (hf : ∀ record, Kept e record (f record)) (page : List Members) :
    attached executor registry e (page.map f) r = attached executor registry e page r := by
  have hget : Members.get? (referenceOf e r) ∘ f = Members.get? (referenceOf e r) :=
    funext fun record => (hf record).get?_referenceOf hr
  cases hjoin : resolve registry e r with
  | error err => rw [attached, attached, hjoin]
  | ok join =>
      have hstatement : join.statement? (page.map f) = join.statement? page := by
        rw [Join.statement?, Join.statement?, reference_of_resolve hjoin, references, references,
          List.filterMap_map, hget]
      simp only [attached, hjoin, relatedOf, hstatement]

/-! ### Several relations -/

/-- A record with all that is added under several names. What is added is that for the record as it
was at first. -/
def filled (added : List (String × (Members → Json))) (record found : Members) : Members :=
  (added.map fun a => (a.1, a.2 record)).foldl
    (fun members pair => Members.insert pair.1 pair.2 members) found

/-- Relations are followed one after the other. -/
theorem followAll_cons (rest : List Relation) (page : List Members) :
    (followAll executor registry e (r :: rest) page).run =
      (follow executor registry e r page).run >>= fun found =>
        (followAll executor registry e rest found).run := by
  obtain ⟨result, hresult⟩ : ∃ result : Except QueryError (List Members),
      follow executor registry e r page = pure result := ⟨_, rfl⟩
  simp only [followAll, hresult, pure_bind, Id.run_pure]
  cases result with
  | error err => rfl
  | ok found => rfl

/-- Relations apart from the fields add to records, as they are when it is their turn, what each
would add to the page. -/
theorem followAll_map {relations : List Relation}
    (hrelations : ∀ r ∈ relations, r ∈ e.relations) (hapart : Apart e relations)
    {f : Members → Members} (hf : ∀ record, Kept e record (f record)) (page : List Members) :
    (followAll executor registry e relations (page.map f)).run =
      (relations.mapM (attached executor registry e page)).map fun added =>
        page.map fun record => filled added record (f record) := by
  -- The records as they are when it is the turn of a relation are those of the page behind `f`.
  induction relations generalizing f with
  | nil => rfl
  | cons r rest ih =>
      obtain ⟨hr, hrest⟩ := List.forall_mem_cons.mp hrelations
      obtain ⟨hname, hapart⟩ := List.forall_mem_cons.mp hapart
      rw [followAll_cons, follow_eq_attached hr, attached_map hr hf, List.mapM_cons]
      cases hadded : attached executor registry e page r with
      | error err => rfl
      | ok added =>
          have hkept : ∀ record,
              Kept e record (Members.insert added.1 (added.2 record) (f record)) := by
            intro record field hfield
            rw [Members.get?_insert, fst_of_attached hadded, if_neg (hname field hfield),
              hf record field hfield]
          have hpage : (page.map f).map (fun record => Members.insert added.1 (added.2 record)
              record) = page.map fun record =>
                Members.insert added.1 (added.2 record) (f record) := by
            rw [List.map_map]
            refine List.map_congr_left fun record _ => ?_
            rw [Function.comp_apply, (hf record).snd_of_attached hr hadded]
          show (followAll executor registry e rest ((page.map f).map _)).run = _
          rw [hpage, ih hrest hapart hkept]
          cases rest.mapM (attached executor registry e page) with
          | error err => rfl
          | ok others => rfl

/-- Relations **apart** from the fields add to a page what each would add to it alone. -/
theorem followAll_eq_filled {relations : List Relation}
    (hrelations : ∀ r ∈ relations, r ∈ e.relations) (hapart : Apart e relations)
    (page : List Members) :
    (followAll executor registry e relations page).run =
      (relations.mapM (attached executor registry e page)).map fun added =>
        page.map fun record => filled added record record :=
  calc (followAll executor registry e relations page).run =
        (followAll executor registry e relations (page.map id)).run := by rw [List.map_id]
    _ = _ := followAll_map hrelations hapart (fun _ _ _ => rfl) page

/-- What is put into a record stands under the names of what is added. -/
theorem get?_filled {added : List (String × (Members → Json))} {name : String}
    (h : name ∉ added.map (·.1)) (record found : Members) :
    Members.get? name (filled added record found) = Members.get? name found := by
  have hnone : (added.map fun a => (a.1, a.2 record)).reverse.find? (·.1 = name) = none := by
    rw [List.find?_eq_none]
    rintro pair hpair
    obtain ⟨a, ha, rfl⟩ := List.mem_map.mp (List.mem_reverse.mp hpair)
    simpa using fun heq : a.1 = name => h (List.mem_map.mpr ⟨a, ha, heq⟩)
  rw [filled, Members.get?_foldl_insert, hnone, Option.map_none, Option.none_or]

/-- The names of what some relations add are theirs. -/
theorem map_fst_of_mapM {relations : List Relation} {page : List Members}
    {added : List (String × (Members → Json))}
    (h : relations.mapM (attached executor registry e page) = .ok added) :
    added.map (·.1) = relations.map (·.name) := by
  rw [mapM_eq_ok] at h
  induction h with
  | nil => rfl
  | cons hadded _ ih => rw [List.map_cons, List.map_cons, fst_of_attached hadded, ih]

/-- Relations that are **apart** from the fields keep these. -/
theorem kept_of_followAll {relations : List Relation}
    (hrelations : ∀ r ∈ relations, r ∈ e.relations) (hapart : Apart e relations)
    {page found : List Members}
    (h : (followAll executor registry e relations page).run = .ok found) :
    List.Forall₂ (Kept e) page found := by
  rw [followAll_eq_filled hrelations hapart] at h
  obtain ⟨added, hadded, rfl⟩ := map_eq_ok.mp h
  rw [List.forall₂_map_right_iff]
  refine List.forall₂_same.mpr fun record _ field hfield => get?_filled ?_ record _
  rw [map_fst_of_mapM hadded, List.mem_map]
  rintro ⟨r, hr, hname⟩
  exact hapart r hr field hfield hname

/-- Relations that are **apart** from the fields can be followed in any order. -/
theorem followAll_of_perm {relations relations' : List Relation} (hperm : relations'.Perm relations)
    (hnodup : (relations.map (·.name)).Nodup) (hrelations : ∀ r ∈ relations, r ∈ e.relations)
    (hapart : Apart e relations) {page found : List Members}
    (h : (followAll executor registry e relations page).run = .ok found) :
    (followAll executor registry e relations' page).run = .ok found := by
  have hrelations' : ∀ r ∈ relations', r ∈ e.relations := fun r hr =>
    hrelations r (hperm.mem_iff.mp hr)
  have hapart' : Apart e relations' := fun r hr => hapart r (hperm.mem_iff.mp hr)
  rw [followAll_eq_filled hrelations hapart] at h
  obtain ⟨added, hadded, rfl⟩ := map_eq_ok.mp h
  obtain ⟨added', hadded', hsame⟩ := List.perm_comp_forall₂ hperm (mapM_eq_ok.mp hadded)
  have hnames : (added'.map (·.1)).Nodup := by
    rwa [(hsame.map _).nodup_iff, map_fst_of_mapM hadded]
  rw [followAll_eq_filled hrelations' hapart', map_eq_ok]
  refine ⟨added', mapM_eq_ok.mpr hadded', List.map_congr_left fun record _ => ?_⟩
  refine Members.foldl_insert_of_perm (hsame.map _) ?_ _
  rwa [List.map_map]

/-! ### Lost fields -/

/-- A name of a record is **overwritten** if what stands under it is no value by which records
refer to each other. -/
def Overwritten (name : String) (record : Members) : Prop :=
  ∃ j, Members.get? name record = some j ∧ isScalar j = false

/-- What is overwritten stays so, and the names of relations are **overwritten** when they are
followed. -/
theorem overwritten_of_followAll {relations : List Relation}
    (hrelations : ∀ r ∈ relations, r ∈ e.relations) {page found : List Members}
    (h : (followAll executor registry e relations page).run = .ok found) {name : String}
    (hname : name ∈ relations.map (·.name) ∨ ∀ record ∈ page, Overwritten name record) :
    ∀ record ∈ found, Overwritten name record := by
  induction relations generalizing page with
  | nil =>
      obtain rfl : page = found := Except.ok.inj h
      exact hname.resolve_left (by simp)
  | cons r rest ih =>
      obtain ⟨hr, hrest⟩ := List.forall_mem_cons.mp hrelations
      rw [followAll_cons] at h
      obtain ⟨after, hafter, h⟩ := bind_eq_ok.mp h
      rw [follow_eq_attached hr] at hafter
      obtain ⟨added, hadded, rfl⟩ := map_eq_ok.mp hafter
      refine ih hrest h ?_
      by_cases hlater : name ∈ rest.map (·.name)
      · exact .inl hlater
      · refine .inr fun record hrecord => ?_
        obtain ⟨before, hbefore, rfl⟩ := List.mem_map.mp hrecord
        by_cases heq : added.1 = name
        · exact ⟨_, by rw [Members.get?_insert, if_pos heq], isScalar_of_attached hadded before⟩
        · rw [fst_of_attached hadded] at heq
          have hpage := hname.resolve_left (by simp [Ne.symm heq, hlater])
          obtain ⟨j, hj, hscalar⟩ := hpage before hbefore
          rw [fst_of_attached hadded]
          exact ⟨j, by rw [Members.get?_insert, if_neg heq, hj], hscalar⟩

/-- Relations of an entity of the registry are followed if every statement is answered. -/
theorem exists_followAll (he : e ∈ registry.entities)
    (hanswers : ∀ text, ∃ rows, (executor.records text).run = .ok rows)
    {relations : List Relation} (hrelations : ∀ r ∈ relations, r ∈ e.relations)
    (page : List Members) :
    ∃ found, (followAll executor registry e relations page).run = .ok found := by
  induction relations generalizing page with
  | nil => exact ⟨page, rfl⟩
  | cons r rest ih =>
      obtain ⟨hr, hrest⟩ := List.forall_mem_cons.mp hrelations
      obtain ⟨join, hjoin⟩ := exists_resolve registry he hr
      obtain ⟨rows, hrows⟩ : ∃ rows, relatedOf executor join page = .ok rows := by
        rw [relatedOf]
        cases join.statement? page with
        | none => exact ⟨[], rfl⟩
        | some statement => exact hanswers statement
      rw [followAll_cons, follow_eq_attached hr]
      simp only [attached, hjoin, hrows]
      exact ih hrest _

/-! ### Whole requests -/

/-- For a store without a state a request is a **chain** of parts each of which may fail. -/
theorem run_eq {α : Type} (decode : Members → Option α) (m : Model) :
    (run executor registry decode m).run = (do
      let countText ← (Sql.countText m).mapError QueryError.compile
      let total ← (executor.count countText).run.mapError QueryError.backend
      let pageText ← (Sql.pageText m).mapError QueryError.compile
      let records ← (executor.records pageText).run.mapError QueryError.backend
      let records ← (followAll executor registry m.entity (followed m) records).run
      (decodeAll decode records).map fun found => ⟨found, total⟩) := by
  unfold run
  cases Sql.countText m with
  | error failures => rfl
  | ok countText =>
      cases hcount : (executor.count countText).run with
      | error err => simp [hcount, Except.mapError, ok_bind, error_bind]
      | ok total =>
          cases Sql.pageText m with
          | error failures => simp [hcount, Except.mapError, ok_bind, error_bind]
          | ok pageText =>
              cases hrecords : (executor.records pageText).run with
              | error err => simp [hcount, hrecords, Except.mapError, ok_bind, error_bind]
              | ok records =>
                  cases hfound :
                      (followAll executor registry m.entity (followed m) records).run with
                  | error err | ok found =>
                      simp [hcount, hrecords, hfound, Except.mapError, ok_bind, error_bind]

/-- A request **succeeds** if its statements are answered, its relations can be followed and the
records have the form that is asked for. -/
theorem run_eq_ok_iff {α : Type} {decode : Members → Option α} {m : Model} {page : Page α} :
    (run executor registry decode m).run = .ok page ↔
      ∃ countText, Sql.countText m = .ok countText ∧
      (executor.count countText).run = .ok page.total ∧ ∃ pageText, Sql.pageText m = .ok pageText ∧
      ∃ records, (executor.records pageText).run = .ok records ∧
      ∃ found, (followAll executor registry m.entity (followed m) records).run = .ok found ∧
        decodeAll decode found = .ok page.records := by
  obtain ⟨shown, total⟩ := page
  rw [run_eq]
  simp only [bind_eq_ok, mapError_eq_ok, map_eq_ok, Page.mk.injEq]
  constructor
  · rintro ⟨countText, hcountText, count, hcount, pageText, hpageText, records, hrecords, found,
      hfound, decoded, hdecoded, rfl, rfl⟩
    exact ⟨countText, hcountText, hcount, pageText, hpageText, records, hrecords, found, hfound,
      hdecoded⟩
  · rintro ⟨countText, hcountText, hcount, pageText, hpageText, records, hrecords, found, hfound,
      hdecoded⟩
    exact ⟨countText, hcountText, total, hcount, pageText, hpageText, records, hrecords, found,
      hfound, shown, hdecoded, rfl, rfl⟩

/-- A request **keeps fields** if, whatever is answered, all declared fields of the records of the
page are as they were. -/
def KeepsFields (registry : Registry) (m : Model) : Prop :=
  ∀ (executor : Executor Id) (text : String) (records : List Members) (page : Page Members),
    Sql.pageText m = .ok text → (executor.records text).run = .ok records →
    (run executor registry some m).run = .ok page →
    List.Forall₂ (Kept m.entity) records page.records

/-- A request **ignores the order** of its relations if, whatever is answered and whatever form the
records have, it has the same page with its relations in another order. -/
def IgnoresOrder (registry : Registry) (m : Model) : Prop :=
  ∀ (executor : Executor Id) {α : Type} (decode : Members → Option α) (includes : List Relation)
    (page : Page α), includes.Perm m.includes → (run executor registry decode m).run = .ok page →
    (run executor registry decode { m with includes }).run = .ok page

/-- A store with one record, which has nothing but a text under a name. -/
def lone (name : String) : Executor Id := ⟨fun _ => .ok 1, fun _ => .ok [[(name, .string "")]]⟩

/-- If a relation that is followed has the name of a field, the **field is lost** when this store
answers. -/
theorem apart_of_keepsFields {m : Model} (hsound : m.Sound) (he : m.entity ∈ registry.entities)
    (hfollowed : ∀ r ∈ followed m, r ∈ m.entity.relations) (hkeeps : KeepsFields registry m) :
    Apart m.entity (followed m) := by
  intro r hr f hf hname
  obtain ⟨⟨countText, hcountText⟩, ⟨pageText, hpageText⟩, -⟩ := hsound.taken
  have hanswers : ∀ text, ∃ rows, ((lone f.name).records text).run = .ok rows :=
    fun _ => ⟨_, rfl⟩
  obtain ⟨found, hfound⟩ := exists_followAll he hanswers hfollowed [[(f.name, .string "")]]
  have hrun : (run (lone f.name) registry some m).run = .ok ⟨found, 1⟩ :=
    run_eq_ok_iff.mpr ⟨countText, hcountText, rfl, pageText, hpageText, _, rfl, found, hfound,
      decodeAll_some found⟩
  have hpage := hkeeps (lone f.name) pageText _ _ hpageText rfl hrun
  obtain ⟨record, rest, hrecord, -, rfl⟩ := List.forall₂_cons_left_iff.mp hpage
  obtain ⟨j, hj, hscalar⟩ := overwritten_of_followAll hfollowed hfound
    (.inl (List.mem_map.mpr ⟨r, hr, hname⟩)) record List.mem_cons_self
  have hvalue : Members.get? f.name record = some (.string "") := by
    rw [hrecord f hf, Members.get?, if_pos rfl]
  rw [hvalue] at hj
  obtain rfl := Option.some.inj hj
  cases hscalar

/-- Relations that are apart from the fields keep these in a whole request. -/
theorem keepsFields_of_apart {m : Model} (hfollowed : ∀ r ∈ followed m, r ∈ m.entity.relations)
    (hapart : Apart m.entity (followed m)) : KeepsFields registry m := by
  intro executor text records page htext hrecords hrun
  obtain ⟨-, -, -, text', htext', records', hrecords', found, hfound, hdecoded⟩ :=
    run_eq_ok_iff.mp hrun
  obtain rfl := Except.ok.inj (htext.symm.trans htext')
  obtain rfl := Except.ok.inj (hrecords.symm.trans hrecords')
  obtain rfl := Except.ok.inj ((decodeAll_some found).symm.trans hdecoded)
  exact kept_of_followAll hfollowed hapart hfound

/-- Relations of different names that are apart from the fields can come in any order. -/
theorem ignoresOrder_of_apart {m : Model} (hnodup : (m.includes.map (·.name)).Nodup)
    (hfollowed : ∀ r ∈ followed m, r ∈ m.entity.relations)
    (hapart : Apart m.entity (followed m)) : IgnoresOrder registry m := by
  intro executor α decode includes page hperm hrun
  obtain ⟨countText, hcountText, hcount, pageText, hpageText, records, hrecords, found, hfound,
    hdecoded⟩ := run_eq_ok_iff.mp hrun
  have hperm' : (followed { m with includes }).Perm (followed m) := by
    show (if m.isProjection then [] else includes).Perm
      (if m.isProjection then [] else m.includes)
    split
    · exact .refl _
    · exact hperm
  have hnodup' : ((followed m).map (·.name)).Nodup := by
    rw [followed]
    split
    · exact List.nodup_nil
    · exact hnodup
  exact run_eq_ok_iff.mpr ⟨countText, hcountText, hcount, pageText, hpageText, records, hrecords,
    found, followAll_of_perm hperm' hnodup' hfollowed hapart hfound, hdecoded⟩

/-- For a model that is built, fields are kept and the order is ignored if the relations that are
followed are **apart** from the fields. If the entity is of the registry, fields are kept only
then. -/
theorem keepsFields_iff_apart (registry : Registry) {ds : List Directive} {maxLimit : Nat}
    {m : Model} (h : Model.build ds maxLimit e = .ok m) :
    (Apart e (followed m) → KeepsFields registry m ∧ IgnoresOrder registry m) ∧
    (e ∈ registry.entities → KeepsFields registry m → Apart e (followed m)) := by
  obtain rfl : m.entity = e := entity_of_build h
  have hfollowed : ∀ r ∈ followed m, r ∈ m.entity.relations := mem_relations_of_followed h
  have hnodup := (Model.WellFormed.of_build h).includes_nodup
  exact ⟨fun hapart => ⟨keepsFields_of_apart hfollowed hapart,
      ignoresOrder_of_apart hnodup hfollowed hapart⟩,
    fun he hkeeps => apart_of_keepsFields (sound_of_build h) he hfollowed hkeeps⟩

namespace Sample

/-- Orders with two relations to their customer, both apart from the fields. -/
def sales : Entity :=
  { orders with
    relations := [⟨"Customer", "Customer", .belongsTo "CustomerId"⟩,
      ⟨"Buyer", "Customer", .belongsTo "CustomerId"⟩]
    localFields_mem := by decide }

/-- The registry of these orders and the customers. -/
def outlet : Registry := ⟨[sales, customers], rfl⟩

/-- Both relations are asked for. -/
def parties : List Directive := [.relation "Customer" "", .relation "Buyer" ""]

/-- The model of what is asked for. -/
def partiesModel : Model := .ofParts sales 10 (parties.filterMap (Directive.part? sales))

/-- The only record of a store, which is an order and its customer at once. -/
def only : Members := [("CustomerId", .integer 7), ("Id", .integer 7)]

/-- The store of this record. -/
def stall : Executor Id := ⟨fun _ => .ok 1, fun _ => .ok [only]⟩

end Sample

/-- Relations apart from the fields keep these and can be followed the other way round. -/
theorem keepsFields_sales :
    KeepsFields Sample.outlet Sample.partiesModel ∧
    (run Sample.stall Sample.outlet some { Sample.partiesModel with
      includes := Sample.partiesModel.includes.reverse }).run =
      .ok ⟨[[("Buyer", .object Sample.only), ("Customer", .object Sample.only),
        ("CustomerId", .integer 7), ("Id", .integer 7)]], 1⟩ := by
  have hbuild : Model.build Sample.parties 10 Sample.sales = .ok Sample.partiesModel := rfl
  have hapart : Apart Sample.sales (followed Sample.partiesModel) := by decide
  obtain ⟨hkeeps, horder⟩ := (keepsFields_iff_apart Sample.outlet hbuild).1 hapart
  exact ⟨hkeeps, horder _ _ _ _ (List.reverse_perm _) rfl⟩

/-- A relation with the name of a field overwrites it, and the relation behind it finds nothing
to refer by. The other way round both find the customer. -/
theorem not_keepsFields_orders :
    (run Sample.stall Sample.shop some Sample.model).run =
      .ok ⟨[[("Customer", .null), ("CustomerId", .object Sample.only), ("Id", .integer 7)]], 1⟩ ∧
    (run Sample.stall Sample.shop some { Sample.model with
      includes := Sample.model.includes.reverse }).run =
      .ok ⟨[[("Customer", .object Sample.only), ("CustomerId", .object Sample.only),
        ("Id", .integer 7)]], 1⟩ ∧
    ¬ KeepsFields Sample.shop Sample.model ∧ ¬ IgnoresOrder Sample.shop Sample.model := by
  have hrun : (run Sample.stall Sample.shop some Sample.model).run = .ok
      ⟨[[("Customer", .null), ("CustomerId", .object Sample.only), ("Id", .integer 7)]], 1⟩ := rfl
  have hreverse : (run Sample.stall Sample.shop some { Sample.model with
      includes := Sample.model.includes.reverse }).run = .ok
      ⟨[[("Customer", .object Sample.only), ("CustomerId", .object Sample.only),
        ("Id", .integer 7)]], 1⟩ := rfl
  refine ⟨hrun, hreverse, fun hkeeps => ?_, fun hignores => ?_⟩
  · have hpage := hkeeps Sample.stall _ [Sample.only] _ rfl rfl hrun
    have hfield := (List.forall₂_cons.mp hpage).1 (.ofName "CustomerId" .integer) (.tail _ (.head _))
    exact absurd hfield (by simp [Members.get?, Field.ofName, Sample.only])
  · have hsame := hignores Sample.stall some _ _ (List.reverse_perm _) hrun
    rw [hreverse] at hsame
    exact absurd (Except.ok.inj hsame) (by simp)

end Listing.Store
