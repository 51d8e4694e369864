import Listing.Schema.Field

/-!
# Entities

An `Entity` is a kind of records that can be listed: a table, its fields and its relations. It is
built from an `EntityDescription`, which is what a configuration says about it. The fields of an
entity have distinct names, its identity is one of them, and so is the local field of every
relation that needs one.
-/

namespace Listing

/-- What is wrong with a description of entities. -/
inductive SchemaError where
  /-- Two fields of an entity have the same name. -/
  | duplicateField (entity field : String)
  /-- The identity names no field. -/
  | missingIdentity (entity field : String)
  /-- Two entities have the same name, up to case. -/
  | duplicateEntity (entity : String)
  /-- The target of a relation is not there. -/
  | unknownTarget (entity relation target : String)
  /-- A relation uses a field that is not there. -/
  | unknownField (entity relation field : String)
deriving DecidableEq, Repr

/-- The text of a schema error. -/
def SchemaError.message : SchemaError → String
  | duplicateField entity field =>
    "entity '" ++ entity ++ "' declares field '" ++ field ++ "' more than once"
  | missingIdentity entity field =>
    "entity '" ++ entity ++ "' has no identity field '" ++ field ++ "'"
  | duplicateEntity entity => "entity '" ++ entity ++ "' is registered more than once"
  | unknownTarget entity relation target =>
    "relation '" ++ relation ++ "' of '" ++ entity ++ "' points at unknown entity '" ++ target ++
      "'"
  | unknownField entity relation field =>
    "relation '" ++ relation ++ "' of '" ++ entity ++ "' uses unknown field '" ++ field ++ "'"

/-- A description of an entity. -/
structure EntityDescription where
  /-- The name of the entity. -/
  name : String
  /-- The schema of the table, if it is not the usual one. -/
  schema : Option String
  /-- The table; without it the plural of the name. -/
  table : Option String
  /-- The name of the field that identifies a record. -/
  identity : String
  /-- Whether the records are also in the search index. -/
  indexed : Bool
  /-- The largest page of this entity, if it differs from the usual one. -/
  maxListSize : Option Nat
  /-- The fields, in order. -/
  fields : List Field
  /-- The relations, in order. -/
  relations : List Relation
deriving DecidableEq, Repr

/-- The name of the field of this entity that a relation reads, if it reads one. -/
def Relation.localField? (r : Relation) : Option String :=
  match r.link with
  | .belongsTo name => some name
  | .hasMany _ => none

/-- An entity. -/
structure Entity where
  /-- The name of the entity. -/
  name : String
  /-- The schema of the table, if it is not the usual one. -/
  schema : Option String
  /-- The table. -/
  table : String
  /-- Whether the records are also in the search index. -/
  indexed : Bool
  /-- The largest page of this entity, if it differs from the usual one. -/
  maxListSize : Option Nat
  /-- The fields, in order. -/
  fields : List Field
  /-- The field that identifies a record. -/
  identity : Field
  /-- The relations, in order. -/
  relations : List Relation
  /-- No two fields have the same name. -/
  names_nodup : (fields.map (·.name)).Nodup
  /-- The identity is one of the fields. -/
  identity_mem : identity ∈ fields
  /-- Every field that a relation reads is there. -/
  localFields_mem : ∀ r ∈ relations, ∀ name ∈ r.localField?, name ∈ fields.map (·.name)

namespace Entity

/-- The field with a name; the case of ASCII letters counts only if two names differ in it. -/
def field? (e : Entity) (name : String) : Option Field := findNamed (·.name) name e.fields

/-- The relation with a name; the case of ASCII letters counts only if two names differ in it. -/
def relation? (e : Entity) (name : String) : Option Relation :=
  findNamed (·.name) name e.relations

/-- The field with a name in the documents of the search index. -/
def fieldOfIndex? (e : Entity) (name : String) : Option Field :=
  e.fields.find? (·.indexField == name)

/-- The fields in which free text is looked for. -/
def searchable (e : Entity) : List Field := e.fields.filter (·.searchable)

/-- The name of the search index of an entity. -/
def indexName (e : Entity) (before : String) : String :=
  if before.isEmpty then e.name.lowered else before ++ "-" ++ e.name.lowered

end Entity

/-- The first name of a list that stands in it before. -/
def firstRepeated? (seen : List String) : List String → Option String
  | [] => none
  | name :: rest => if name ∈ seen then some name else firstRepeated? (name :: seen) rest

/-- A list in which no name is repeated has distinct names. -/
theorem nodup_of_firstRepeated? {seen names : List String}
    (h : firstRepeated? seen names = none) : names.Nodup ∧ ∀ n ∈ names, n ∉ seen := by
  induction names generalizing seen with
  | nil => simp
  | cons n rest ih =>
    simp only [firstRepeated?] at h
    split at h
    · simp at h
    · next hn =>
      obtain ⟨hrest, hseen⟩ := ih h
      refine ⟨List.nodup_cons.2 ⟨fun hmem => hseen n hmem (by simp), hrest⟩, ?_⟩
      intro m hm
      rcases List.mem_cons.1 hm with rfl | hm
      · exact hn
      · exact fun hs => hseen m hm (by simp [hs])

/-- The first relation that reads a field whose name is not among the given ones. -/
def firstDangling? (names : List String) : List Relation → Option (Relation × String)
  | [] => none
  | r :: rest =>
    match r.localField? with
    | none => firstDangling? names rest
    | some name => if name ∈ names then firstDangling? names rest else some (r, name)

/-- If no relation dangles, every field that one reads is there. -/
theorem mem_of_firstDangling? {names : List String} {relations : List Relation}
    (h : firstDangling? names relations = none) :
    ∀ r ∈ relations, ∀ name ∈ r.localField?, name ∈ names := by
  induction relations with
  | nil => simp
  | cons r rest ih =>
    intro r' hr' name hname
    simp only [firstDangling?] at h
    rcases List.mem_cons.1 hr' with rfl | hr'
    · rw [Option.mem_def] at hname
      rw [hname] at h
      simp only at h
      split at h
      · assumption
      · simp at h
    · split at h
      · exact ih h r' hr' name hname
      · split at h
        · exact ih h r' hr' name hname
        · simp at h

/-- The entity that a description describes. Columns and the table are filled in; the first fault
found is the answer if there is one. -/
def EntityDescription.build (d : EntityDescription) : Except SchemaError Entity :=
  let fields := d.fields.map Field.withColumn
  match hn : firstRepeated? [] (fields.map (·.name)) with
  | some name => .error (.duplicateField d.name name)
  | none =>
    match hi : fields.find? (·.name == d.identity) with
    | none => .error (.missingIdentity d.name d.identity)
    | some identity =>
      match hr : firstDangling? (fields.map (·.name)) d.relations with
      | some (r, name) => .error (.unknownField d.name r.name name)
      | none =>
        .ok {
          name := d.name
          schema := d.schema
          table := d.table.getD (Text.snakeCase d.name ++ "s")
          indexed := d.indexed
          maxListSize := d.maxListSize
          fields
          identity
          relations := d.relations
          names_nodup := (nodup_of_firstRepeated? hn).1
          identity_mem := List.mem_of_find?_eq_some hi
          localFields_mem := mem_of_firstDangling? hr }

end Listing
