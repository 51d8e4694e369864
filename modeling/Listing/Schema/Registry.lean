import Listing.Schema.Entity

/-!
# The registry

A `Registry` is the set of all entities that can be listed. Entities are looked up by name without
regard to case. No two entities have the same name in this sense, every relation leads to an
entity of the registry, and the foreign key of a relation is a field of its target.
-/

namespace Listing

/-- The form of an entity's name by which it is looked up. -/
def Entity.key (e : Entity) : String := e.name.lowered

/-- The entity of a list with a name, without regard to case. -/
def findEntity (entities : List Entity) (name : String) : Option Entity :=
  entities.find? (·.key == name.lowered)

/-- The first entity of a list whose name is that of one before it, without regard to case. -/
def firstNamesake? (seen : List String) : List Entity → Option Entity
  | [] => none
  | e :: rest => if e.key ∈ seen then some e else firstNamesake? (e.key :: seen) rest

/-- What is wrong with a relation of an entity among all entities. -/
def relationFault? (entities : List Entity) (e : Entity) (r : Relation) : Option SchemaError :=
  match findEntity entities r.target with
  | none => some (.unknownTarget e.name r.name r.target)
  | some target =>
    match r.link with
    | .belongsTo _ => none
    | .hasMany key =>
      match target.field? key with
      | none => some (.unknownField e.name r.name key)
      | some _ => none

/-- The first fault of a list of entities. -/
def registryFault? (entities : List Entity) : Option SchemaError :=
  match firstNamesake? [] entities with
  | some e => some (.duplicateEntity e.name)
  | none => entities.findSome? fun e => e.relations.findSome? (relationFault? entities e)

/-- The entities that can be listed, in the order in which they were described. -/
structure Registry where
  /-- The entities. -/
  entities : List Entity
  /-- Names are distinct and relations lead somewhere. -/
  faultless : registryFault? entities = none

namespace Registry

/-- The registry without entities. -/
def empty : Registry := ⟨[], rfl⟩

/-- The registry of a list of entities. -/
def ofEntities (entities : List Entity) : Except SchemaError Registry :=
  match h : registryFault? entities with
  | some e => .error e
  | none => .ok ⟨entities, h⟩

/-- The registry of a list of descriptions. -/
def ofDescriptions (descriptions : List EntityDescription) : Except SchemaError Registry :=
  match descriptions.mapM EntityDescription.build with
  | .error e => .error e
  | .ok entities => ofEntities entities

/-- The entity with a name, without regard to case. -/
def get? (r : Registry) (name : String) : Option Entity := findEntity r.entities name

/-- The names of all entities, sorted. -/
def names (r : Registry) : List String := (r.entities.map (·.name)).mergeSort (· ≤ ·)

end Registry

end Listing
