import Listing.Proofs.Store.LeftJoin
import Listing.Settings.Application

/-!
# Schemas That Are Accepted

The descriptions of a configuration are checked in two steps: each by itself when its entity is
built, and all of them together when the entities are registered. A description that passes the
first step is **sound**, and descriptions that pass the second are **coherent**. Names of fields
are compared as they are in the first step and without regard to the case of ASCII letters in the
second, where the names of entities are compared in lower case.

What comes later relies on both: an entity is looked up by name, its identity and its fields are
taken for granted, and its relations are followed without a way out. A registry **serves**
descriptions if nothing of this can fail.

## Main results

* `exists_build_iff` — an entity is built just from a sound description.
* `registryFault?_eq_none_iff` — when entities have no fault among each other.
* `registers_iff_coherent` — a registry is made just from sound and coherent descriptions, and
  then it serves them.
-/

namespace Listing

/-- The name of the field of the related entity that a relation reads, if it reads one. -/
def Relation.foreignKey? (r : Relation) : Option String :=
  match r.link with
  | .belongsTo _ => none
  | .hasMany key => some key

/-- A description that is **sound** by itself. -/
structure EntityDescription.Sound (d : EntityDescription) : Prop where
  /-- No two fields have the same name. -/
  names_nodup : (d.fields.map (·.name)).Nodup
  /-- The identity names a field. -/
  identity_mem : d.identity ∈ d.fields.map (·.name)
  /-- The local field of every relation that has one names a field. -/
  localFields_mem : ∀ r ∈ d.relations, ∀ field ∈ r.localField?, field ∈ d.fields.map (·.name)

/-- Descriptions that are **coherent** among each other. -/
structure Coherent (ds : List EntityDescription) : Prop where
  /-- No two entities have the same name in lower case. -/
  keys_nodup : (ds.map (·.name.lowered)).Nodup
  /-- Every relation names an entity, up to case, and the foreign key of a relation that has one
  names a field of it, up to the case of ASCII letters. -/
  targets : ∀ d ∈ ds, ∀ r ∈ d.relations, ∃ t ∈ ds, t.name.lowered = r.target.lowered ∧
    ∀ key ∈ r.foreignKey?, ∃ f ∈ t.fields, f.name.equalsIgnoringCase key

instance (d : EntityDescription) : Decidable d.Sound :=
  decidable_of_iff ((d.fields.map (·.name)).Nodup ∧ d.identity ∈ d.fields.map (·.name) ∧
      ∀ r ∈ d.relations, ∀ field ∈ r.localField?, field ∈ d.fields.map (·.name))
    ⟨fun h => ⟨h.1, h.2.1, h.2.2⟩, fun h => ⟨h.1, h.2, h.3⟩⟩

instance (ds : List EntityDescription) : Decidable (Coherent ds) :=
  decidable_of_iff ((ds.map (·.name.lowered)).Nodup ∧
      ∀ d ∈ ds, ∀ r ∈ d.relations, ∃ t ∈ ds, t.name.lowered = r.target.lowered ∧
        ∀ key ∈ r.foreignKey?, ∃ f ∈ t.fields, f.name.equalsIgnoringCase key)
    ⟨fun h => ⟨h.1, h.2⟩, fun h => ⟨h.1, h.2⟩⟩

/-- A description **describes** an entity that has all that it says, with the table and the
columns filled in. -/
structure EntityDescription.Describes (d : EntityDescription) (e : Entity) : Prop where
  /-- The name. -/
  name_eq : e.name = d.name
  /-- The schema of the table. -/
  schema_eq : e.schema = d.schema
  /-- The table, by default the plural of the name. -/
  table_eq : e.table = d.table.getD (Text.snakeCase d.name ++ "s")
  /-- Whether it is in the search index. -/
  indexed_eq : e.indexed = d.indexed
  /-- The largest page. -/
  maxListSize_eq : e.maxListSize = d.maxListSize
  /-- The fields, each with a column. -/
  fields_eq : e.fields = d.fields.map Field.withColumn
  /-- The identity is a field of the name that is declared. -/
  identity_eq : e.identity.name = d.identity
  /-- The relations. -/
  relations_eq : e.relations = d.relations

/-- A registry **serves** descriptions: all that is looked up in it later on is there. -/
structure Registry.Serves (registry : Registry) (ds : List EntityDescription) : Prop where
  /-- There is one entity for each description. -/
  described : List.Forall₂ EntityDescription.Describes ds registry.entities
  /-- An entity is found just by the names that are the name of one in lower case. -/
  found_iff : ∀ name, (registry.get? name).isSome ↔ ∃ d ∈ ds, d.name.lowered = name.lowered
  /-- The entity that is found is the one with the name. -/
  get?_eq : ∀ e ∈ registry.entities, ∀ name, e.name.lowered = name.lowered →
    registry.get? name = some e
  /-- Every field is found by its name. -/
  field?_eq : ∀ e ∈ registry.entities, ∀ f ∈ e.fields, e.field? f.name = some f
  /-- Every relation can be followed, from a field of the entity to the identity or the foreign key
  of another one. -/
  resolved : ∀ e ∈ registry.entities, ∀ r ∈ e.relations, ∃ join,
    Store.resolve registry e r = .ok join ∧ Store.Leads registry r join.target join.key ∧
      join.reference ∈ e.fields.map (·.name)

/-! ### One description -/

/-- A list has no repeated name just if its names are **distinct**, also from those seen before. -/
theorem firstRepeated?_eq_none_iff {seen names : List String} :
    firstRepeated? seen names = none ↔ names.Nodup ∧ ∀ n ∈ names, n ∉ seen := by
  refine ⟨nodup_of_firstRepeated?, ?_⟩
  rintro ⟨hnodup, hseen⟩
  induction names generalizing seen with
  | nil => rfl
  | cons n names ih =>
      obtain ⟨hn, hnames⟩ := List.nodup_cons.mp hnodup
      obtain ⟨hfirst, hrest⟩ := List.forall_mem_cons.mp hseen
      rw [firstRepeated?, if_neg hfirst]
      refine ih hnames fun m hm hmem => ?_
      rcases List.mem_cons.mp hmem with rfl | hmem
      · exact hn hm
      · exact hrest m hm hmem

/-- No relation dangles just if every field that one reads **is there**. -/
theorem firstDangling?_eq_none_iff {names : List String} {relations : List Relation} :
    firstDangling? names relations = none ↔
      ∀ r ∈ relations, ∀ field ∈ r.localField?, field ∈ names := by
  refine ⟨mem_of_firstDangling?, fun h => ?_⟩
  induction relations with
  | nil => rfl
  | cons r rest ih =>
      obtain ⟨hr, hrest⟩ := List.forall_mem_cons.mp h
      rw [firstDangling?]
      cases hlocal : r.localField? with
      | none => exact ih hrest
      | some field => simpa only [if_pos (hr field hlocal)] using ih hrest

variable {d : EntityDescription} {e : Entity}

/-- Filling in the columns leaves the names of the fields. -/
theorem map_name_withColumn (fields : List Field) :
    (fields.map Field.withColumn).map (·.name) = fields.map (·.name) := by
  simp [Function.comp_def]

/-- An entity is **described** by what it is built from. -/
theorem describes_of_build (h : d.build = .ok e) : d.Describes e := by
  unfold EntityDescription.build at h
  simp only at h
  split at h
  · cases h
  split at h
  · cases h
  next identity hidentity =>
    split at h
    · cases h
    · cases h
      exact ⟨rfl, rfl, rfl, rfl, rfl, rfl, by simpa using List.find?_some hidentity, rfl⟩

/-- A description of an entity is **sound**. -/
theorem EntityDescription.Describes.sound (h : d.Describes e) : d.Sound := by
  have hnames : e.fields.map (·.name) = d.fields.map (·.name) := by
    rw [h.fields_eq, map_name_withColumn]
  constructor
  · rw [← hnames]
    exact e.names_nodup
  · rw [← hnames, ← h.identity_eq]
    exact List.mem_map_of_mem e.identity_mem
  · rw [← hnames, ← h.relations_eq]
    exact e.localFields_mem

/-- An entity is built **just from a sound** description. -/
theorem exists_build_iff : (∃ e, d.build = .ok e) ↔ d.Sound := by
  constructor
  · rintro ⟨e, he⟩
    exact (describes_of_build he).sound
  · intro h
    have hnames := map_name_withColumn d.fields
    have hrepeated : firstRepeated? [] ((d.fields.map Field.withColumn).map (·.name)) = none := by
      rw [hnames, firstRepeated?_eq_none_iff]
      exact ⟨h.names_nodup, by simp⟩
    have hdangling :
        firstDangling? ((d.fields.map Field.withColumn).map (·.name)) d.relations = none := by
      rw [hnames, firstDangling?_eq_none_iff]
      exact h.localFields_mem
    have hidentity : ((d.fields.map Field.withColumn).find? (·.name == d.identity)).isSome := by
      obtain ⟨f, hf, hname⟩ := List.mem_map.mp h.identity_mem
      exact List.find?_isSome.mpr ⟨_, List.mem_map_of_mem hf, by simp [hname]⟩
    unfold EntityDescription.build
    simp only
    split
    · next hsome => rw [hrepeated] at hsome; cases hsome
    split
    · next hnone => rw [hnone] at hidentity; cases hidentity
    split
    · next hsome => rw [hdangling] at hsome; cases hsome
    · exact ⟨_, rfl⟩

/-! ### All entities -/

variable {es : List Entity} {r : Relation}

/-- The names by which entities are looked up are **repeated** where an entity has the name of one
before it. -/
theorem map_firstNamesake? (seen : List String) (es : List Entity) :
    (firstNamesake? seen es).map Entity.key = firstRepeated? seen (es.map Entity.key) := by
  induction es generalizing seen with
  | nil => rfl
  | cons e es ih =>
      rw [firstNamesake?, List.map_cons, firstRepeated?]
      split
      · rfl
      · exact ih _

/-- Something is found by a name just if there is an item with this name, **up to the case** of
ASCII letters. -/
theorem isSome_findNamed_iff {α : Type} {nameOf : α → String} {name : String} {items : List α} :
    (findNamed nameOf name items).isSome ↔ ∃ a ∈ items, (nameOf a).equalsIgnoringCase name := by
  rw [findNamed]
  cases hexact : items.find? (nameOf · == name) with
  | none => exact List.find?_isSome
  | some a =>
      have hname : nameOf a = name := by simpa using List.find?_some hexact
      refine iff_of_true rfl ⟨a, List.mem_of_find?_eq_some hexact, ?_⟩
      rw [hname]
      exact beq_self_eq_true _

/-- Among entities with distinct names, **the** one with a name is found. -/
theorem findEntity_eq_some_iff (hnodup : (es.map Entity.key).Nodup) {name : String} :
    findEntity es name = some e ↔ e ∈ es ∧ e.key = name.lowered := by
  constructor
  · intro h
    exact ⟨List.mem_of_find?_eq_some h, by simpa using List.find?_some h⟩
  · rintro ⟨he, hkey⟩
    obtain ⟨t, ht, hfound, hsame⟩ := @exists_find?_of_mem _ Entity.key _ _ he
    obtain rfl : t = e := List.inj_on_of_nodup_map hnodup ht he hsame
    rw [findEntity, ← hkey]
    exact hfound

/-- A relation has no fault just if its target is found and, in this, its foreign key. -/
theorem relationFault?_eq_none_iff : relationFault? es e r = none ↔
    ∃ t, findEntity es r.target = some t ∧ ∀ key ∈ r.foreignKey?, (t.field? key).isSome := by
  rw [relationFault?, Relation.foreignKey?]
  cases findEntity es r.target with
  | none => simp
  | some t =>
      cases r.link with
      | belongsTo field => simp
      | hasMany key => cases hkey : t.field? key <;> simp [hkey]

/-- Entities have **no fault** among each other just if their names are distinct in lower case
and every relation leads to one of them and, if it has a foreign key, to a field. -/
theorem registryFault?_eq_none_iff : registryFault? es = none ↔ (es.map Entity.key).Nodup ∧
    ∀ e ∈ es, ∀ r ∈ e.relations, ∃ t ∈ es, t.key = r.target.lowered ∧
      ∀ key ∈ r.foreignKey?, ∃ f ∈ t.fields, f.name.equalsIgnoringCase key := by
  have hkeys : firstNamesake? [] es = none ↔ (es.map Entity.key).Nodup := by
    rw [← Option.map_eq_none_iff (f := Entity.key), map_firstNamesake?, firstRepeated?_eq_none_iff]
    simp
  rw [registryFault?]
  cases hnamesake : firstNamesake? [] es with
  | some e => simp [← hkeys, hnamesake]
  | none =>
      -- The relations are looked at only now, so what is found by a name is the one that has it.
      have hnodup := hkeys.mp hnamesake
      simp only [List.findSome?_eq_none_iff, relationFault?_eq_none_iff,
        findEntity_eq_some_iff hnodup, and_assoc, hnodup, true_and]
      simp only [Entity.field?, isSome_findNamed_iff]

/-! ### Descriptions and their entities -/

variable {ds : List EntityDescription} {registry : Registry}

/-- Described entities are looked up by the names of their descriptions. -/
theorem map_key_of_describes (h : List.Forall₂ EntityDescription.Describes ds es) :
    es.map Entity.key = ds.map (·.name.lowered) := by
  induction h with
  | nil => rfl
  | cons h _ ih => rw [List.map_cons, List.map_cons, ih, Entity.key, h.name_eq]

/-- Described entities have no fault among each other just if their descriptions are
**coherent**. -/
theorem registryFault?_eq_none_iff_coherent
    (h : List.Forall₂ EntityDescription.Describes ds es) :
    registryFault? es = none ↔ Coherent ds := by
  have hfields : ∀ {d e}, EntityDescription.Describes d e → ∀ key,
      (∃ f ∈ e.fields, f.name.equalsIgnoringCase key) ↔
        ∃ f ∈ d.fields, f.name.equalsIgnoringCase key := by
    intro d e hd key
    simp [hd.fields_eq]
  rw [registryFault?_eq_none_iff, map_key_of_describes h]
  constructor
  · rintro ⟨hnodup, htargets⟩
    refine ⟨hnodup, fun d hd r hr => ?_⟩
    obtain ⟨e, he, hde⟩ := exists_mem_of_forall₂ h hd
    obtain ⟨t, ht, hkey, hforeign⟩ := htargets e he r (hde.relations_eq ▸ hr)
    obtain ⟨s, hs, hst⟩ := exists_mem_of_forall₂ h.flip ht
    refine ⟨s, hs, ?_, fun key hk => (hfields hst key).mp (hforeign key hk)⟩
    rw [← hst.name_eq]
    exact hkey
  · rintro ⟨hnodup, htargets⟩
    refine ⟨hnodup, fun e he r hr => ?_⟩
    obtain ⟨d, hd, hde⟩ := exists_mem_of_forall₂ h.flip he
    obtain ⟨s, hs, hkey, hforeign⟩ := htargets d hd r (hde.relations_eq ▸ hr)
    obtain ⟨t, ht, hst⟩ := exists_mem_of_forall₂ h hs
    refine ⟨t, ht, ?_, fun key hk => (hfields hst key).mpr (hforeign key hk)⟩
    rw [Entity.key, hst.name_eq]
    exact hkey

/-- A registry is made of descriptions just if it has the entities that are built from them. -/
theorem ofDescriptions_eq_ok_iff :
    Registry.ofDescriptions ds = .ok registry ↔
      ds.mapM EntityDescription.build = .ok registry.entities := by
  rw [Registry.ofDescriptions]
  cases ds.mapM EntityDescription.build with
  | error fault => simp
  | ok es =>
      simp only [Registry.ofEntities]
      constructor
      · intro h
        split at h
        · cases h
        · cases h
          rfl
      · intro h
        obtain rfl : es = registry.entities := Except.ok.inj h
        split
        · next hsome => rw [registry.faultless] at hsome; cases hsome
        · rfl

/-- The entities of a registry are **described** by what it is made of. -/
theorem describes_of_ofDescriptions (h : Registry.ofDescriptions ds = .ok registry) :
    List.Forall₂ EntityDescription.Describes ds registry.entities :=
  (mapM_eq_ok.mp (ofDescriptions_eq_ok_iff.mp h)).imp fun _ _ => describes_of_build

/-- A registry is made **just from** sound and coherent descriptions. -/
theorem exists_ofDescriptions_iff :
    (∃ registry, Registry.ofDescriptions ds = .ok registry) ↔
      (∀ d ∈ ds, d.Sound) ∧ Coherent ds := by
  constructor
  · rintro ⟨registry, h⟩
    have hdescribed := describes_of_ofDescriptions h
    refine ⟨fun d hd => ?_, (registryFault?_eq_none_iff_coherent hdescribed).mp registry.faultless⟩
    obtain ⟨e, -, hde⟩ := exists_mem_of_forall₂ hdescribed hd
    exact hde.sound
  · rintro ⟨hsound, hcoherent⟩
    obtain ⟨es, hes⟩ := exists_mapM_eq_ok.mpr fun d hd => exists_build_iff.mpr (hsound d hd)
    have hdescribed := (mapM_eq_ok.mp hes).imp fun _ _ => describes_of_build
    exact ⟨⟨es, (registryFault?_eq_none_iff_coherent hdescribed).mpr hcoherent⟩,
      ofDescriptions_eq_ok_iff.mpr hes⟩

/-! ### What is looked up in a registry -/

/-- The names of the entities of a registry are distinct in lower case. -/
theorem Registry.keys_nodup (registry : Registry) : (registry.entities.map Entity.key).Nodup :=
  (registryFault?_eq_none_iff.mp registry.faultless).1

/-- A field is found by its name. -/
theorem Entity.field?_of_mem {f : Field} (hf : f ∈ e.fields) : e.field? f.name = some f := by
  obtain ⟨g, hg, hfound, hname⟩ := @exists_find?_of_mem _ Field.name _ _ hf
  obtain rfl : g = f := List.inj_on_of_nodup_map e.names_nodup hg hf hname
  rw [Entity.field?, findNamed, hfound]

/-- Records refer along a relation by a field of their own. -/
theorem referenceOf_mem (hr : r ∈ e.relations) :
    Store.referenceOf e r ∈ e.fields.map (·.name) := by
  rw [Store.referenceOf]
  cases hlink : r.link with
  | belongsTo field =>
      obtain ⟨f, hf, hname⟩ := Option.map_eq_some_iff.mp (Store.field?_of_belongsTo hr hlink)
      simp only [hf, Option.map_some, Option.getD_some]
      exact List.mem_map_of_mem (mem_of_findNamed hf)
  | hasMany key => exact List.mem_map_of_mem e.identity_mem

/-- A registry **serves** what it is made of. -/
theorem serves_of_ofDescriptions (h : Registry.ofDescriptions ds = .ok registry) :
    registry.Serves ds := by
  have hdescribed := describes_of_ofDescriptions h
  have hget : ∀ e ∈ registry.entities, ∀ name, e.name.lowered = name.lowered →
      registry.get? name = some e :=
    fun e he name hname => (findEntity_eq_some_iff registry.keys_nodup).mpr ⟨he, hname⟩
  refine ⟨hdescribed, fun name => ?_, hget, fun e _ f => e.field?_of_mem, fun e he r hr => ?_⟩
  · rw [Option.isSome_iff_exists]
    constructor
    · rintro ⟨e, he⟩
      obtain ⟨hmem, hkey⟩ := (findEntity_eq_some_iff registry.keys_nodup).mp he
      obtain ⟨d, hd, hde⟩ := exists_mem_of_forall₂ hdescribed.flip hmem
      exact ⟨d, hd, by rw [← hde.name_eq]; exact hkey⟩
    · rintro ⟨d, hd, hname⟩
      obtain ⟨e, he, hde⟩ := exists_mem_of_forall₂ hdescribed hd
      exact ⟨e, hget e he name (by rw [hde.name_eq, hname])⟩
  · obtain ⟨join, hjoin⟩ := Store.exists_resolve registry he hr
    refine ⟨join, hjoin, Store.leads_of_resolve hjoin, ?_⟩
    rw [Store.reference_of_resolve hjoin]
    exact referenceOf_mem hr

/-- A registry is made of the descriptions of a configuration **just if** they are sound and
coherent: within each entity the names of the fields are distinct, and the identity and every local
field name a field; among all entities the names are distinct in lower case, every relation leads to
one of them, and every foreign key leads to a field there. Such a registry serves the descriptions:
nothing that is looked up in it later on is missing. -/
theorem registers_iff_coherent (a : Settings.Application) :
    ((∃ registry, a.registry = .ok registry) ↔
      (∀ d ∈ a.entities, d.Sound) ∧ Coherent a.entities) ∧
    ∀ registry, a.registry = .ok registry → registry.Serves a.entities :=
  ⟨exists_ofDescriptions_iff, fun _ h => serves_of_ofDescriptions h⟩

namespace Sample

/-- Readers borrow books. Either relation names the other entity in other letters, and so does the
foreign key. -/
def library : Settings.Application where
  store := .standard
  searchIndex := none
  maxListSize := 100
  entities :=
    [{ name := "Book", schema := none, table := none, identity := "Isbn", indexed := true,
       maxListSize := none, fields := [.ofName "Isbn" .text, .ofName "ReaderId" .integer],
       relations := [⟨"Borrower", "READER", .belongsTo "ReaderId"⟩] },
     { name := "Reader", schema := none, table := some "people", identity := "Id",
       indexed := false, maxListSize := some 10,
       fields := [.ofName "Id" .integer, .ofName "Name" .text],
       relations := [⟨"Books", "book", .hasMany "readerid"⟩] }]

end Sample

/-- Readers and books are coherent, so they are registered, and the books of a reader are found by
their field. -/
theorem registers_iff_coherent_library :
    Coherent Sample.library.entities ∧ ∃ registry, Sample.library.registry = .ok registry ∧
      registry.Serves Sample.library.entities ∧ (registry.get? "bOOK").isSome := by
  have hsound : ∀ d ∈ Sample.library.entities, d.Sound := by decide
  have hcoherent : Coherent Sample.library.entities := by decide
  obtain ⟨hiff, hserves⟩ := registers_iff_coherent Sample.library
  obtain ⟨registry, hregistry⟩ := hiff.mpr ⟨hsound, hcoherent⟩
  have hbook := (hserves registry hregistry).found_iff "bOOK"
  exact ⟨hcoherent, registry, hregistry, hserves registry hregistry, hbook.mpr (by decide)⟩

end Listing
