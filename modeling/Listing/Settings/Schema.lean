import Listing.Schema.Entity
import Listing.Json.Record

/-!
# Descriptions of entities in documents

The fields, relations and entities of a configuration. What a field or an entity leaves out has its
usual value; a name, the type of a field and the fields of an entity have to be there.
-/

namespace Listing

open Record

namespace FieldType

/-- The word for a type in a configuration. -/
def word : FieldType → String
  | text => "text"
  | integer => "integer"
  | float => "float"
  | boolean => "boolean"
  | instant => "date_time"

/-- The type that a word stands for. Moments have three words. -/
def ofWord? : String → Option FieldType
  | "text" => some text
  | "integer" => some integer
  | "float" => some float
  | "boolean" => some boolean
  | "date_time" | "datetime" | "timestamp" => some instant
  | _ => none

/-- Every type is what its word stands for. -/
theorem ofWord?_word (t : FieldType) : ofWord? t.word = some t := by
  cases t <;> rfl

end FieldType

namespace Field

/-- The names of the parts of a field, in order. -/
def partNames : List String :=
  ["name", "column", "type", "nullable", "filterable", "orderable", "searchable"]

/-- The field that a document describes. -/
def read? (d : Dialect) (j : Json) : Option Field := do
  let parts ← parts? d partNames j
  let name ← needed? parts "name" Json.string?
  let column ← part? parts "column" Json.string? ""
  let type ← needed? parts "type" (word? d FieldType.ofWord?)
  let nullable ← part? parts "nullable" Json.bool? false
  let filterable ← part? parts "filterable" Json.bool? true
  let orderable ← part? parts "orderable" Json.bool? true
  let searchable ← part? parts "searchable" Json.bool? false
  return ⟨name, column, type, nullable, filterable, orderable, searchable⟩

/-- The document of a field as it was described. -/
def document (f : Field) : Json :=
  .ofPairs
    [("name", .string f.name), ("column", .string f.column), ("type", .string f.type.word),
      ("nullable", .bool f.nullable), ("filterable", .bool f.filterable),
      ("orderable", .bool f.orderable), ("searchable", .bool f.searchable)]

end Field

namespace Link

/-- The words for the kinds of relations, in order. -/
def kinds : List String := ["belongs_to", "has_many"]

/-- How related records are found, among the parts of a relation. -/
def read? (d : Dialect) (parts : Members) : Option Link := do
  match ← needed? parts "kind" (kind? d kinds) with
  | "belongs_to" => belongsTo <$> needed? parts "local_field" Json.string?
  | "has_many" => hasMany <$> needed? parts "foreign_key" Json.string?
  | _ => none

/-- The members that say how related records are found. -/
def members : Link → List (String × Json)
  | belongsTo name => [("kind", .string "belongs_to"), ("local_field", .string name)]
  | hasMany name => [("kind", .string "has_many"), ("foreign_key", .string name)]

end Link

namespace Relation

/-- The relation that an object describes. -/
def read? (d : Dialect) (j : Json) : Option Relation := do
  let parts ← j.object?
  let name ← needed? parts "name" Json.string?
  let target ← needed? parts "target" Json.string?
  return ⟨name, target, ← Link.read? d parts⟩

/-- The document of a relation. -/
def document (r : Relation) : Json :=
  .ofPairs (("name", .string r.name) :: ("target", .string r.target) :: r.link.members)

end Relation

namespace EntityDescription

/-- The names of the parts of an entity, in order. -/
def partNames : List String :=
  ["name", "schema", "table", "identity", "indexed", "max_list_size", "fields", "relations"]

/-- The description that a document holds. -/
def read? (d : Dialect) (j : Json) : Option EntityDescription := do
  let parts ← parts? d partNames j
  let name ← needed? parts "name" Json.string?
  let schema ← part? parts "schema" (orAbsent? Json.string?) none
  let table ← part? parts "table" (orAbsent? Json.string?) none
  let identity ← part? parts "identity" Json.string? "Id"
  let indexed ← part? parts "indexed" Json.bool? false
  let maxListSize ← part? parts "max_list_size" (orAbsent? size?) none
  let fields ← needed? parts "fields" (list? (Field.read? d))
  let relations ← part? parts "relations" (list? (Relation.read? d)) []
  return ⟨name, schema, table, identity, indexed, maxListSize, fields, relations⟩

/-- The document of a description. -/
def document (d : EntityDescription) : Json :=
  .ofPairs
    [("name", .string d.name), ("schema", orNull .string d.schema),
      ("table", orNull .string d.table), ("identity", .string d.identity),
      ("indexed", .bool d.indexed), ("max_list_size", orNull ofNatural d.maxListSize),
      ("fields", .array (d.fields.map Field.document)),
      ("relations", .array (d.relations.map Relation.document))]

end EntityDescription

end Listing
