import Listing.Text.LetterCase

/-!
# Fields and relations

A field of an entity has one name for clients, one column in the table and one name in the
documents of the search index; the latter two follow from the first unless they are given. A
relation leads from the records of an entity to those of another.
-/

namespace Listing

/-- The type of the values of a field. -/
inductive FieldType where
  /-- Texts. -/
  | text
  /-- Signed 64-bit integers. -/
  | integer
  /-- 64-bit floating-point numbers. -/
  | float
  /-- Truth values. -/
  | boolean
  /-- Moments of time. -/
  | instant
deriving DecidableEq, Repr

/-- The word for a type in messages. -/
def FieldType.label : FieldType → String
  | text => "text"
  | integer => "integer"
  | float => "float"
  | boolean => "boolean"
  | instant => "datetime"

/-- A field of an entity. -/
structure Field where
  /-- The name in query strings and in returned records. -/
  name : String
  /-- The column of the table. In a description it may be empty: then it follows from the name. -/
  column : String
  /-- The type of the values. -/
  type : FieldType
  /-- Whether a record may have no value. -/
  nullable : Bool
  /-- Whether records may be selected by it. -/
  filterable : Bool
  /-- Whether records may be ordered by it. -/
  orderable : Bool
  /-- Whether free text is looked for in it. -/
  searchable : Bool
deriving DecidableEq, Repr

namespace Field

/-- A field without special permissions, whose column follows from its name. -/
def ofName (name : String) (type : FieldType) : Field :=
  ⟨name, Text.snakeCase name, type, false, true, true, false⟩

/-- The field with its column filled in. -/
def withColumn (f : Field) : Field :=
  if f.column.isEmpty then { f with column := Text.snakeCase f.name } else f

/-- The name in the documents of the search index. -/
def indexField (f : Field) : String := Text.camelCase f.name

/-- The name under which the search index has the unchanged value. Texts are taken apart into
words, and their unchanged value is kept beside them. -/
def exactIndexField (f : Field) : String :=
  match f.type with
  | .text => f.indexField ++ ".keyword"
  | _ => f.indexField

/-- Filling in the column leaves the name. -/
@[simp] theorem name_withColumn (f : Field) : f.withColumn.name = f.name := by
  unfold withColumn; split <;> rfl

end Field

/-- How the records of a relation are found. -/
inductive Link where
  /-- A field of this entity holds the identity of the related record. -/
  | belongsTo (localField : String)
  /-- A field of the related records holds the identity of this record. -/
  | hasMany (foreignKey : String)
deriving DecidableEq, Repr

/-- A relation of an entity. -/
structure Relation where
  /-- The name in query strings, and of the related records in a returned record. -/
  name : String
  /-- The name of the related entity. -/
  target : String
  /-- How the related records are found. -/
  link : Link
deriving DecidableEq, Repr

/-- The first item with a given name or, if there is none, the first whose name differs in the
case of ASCII letters only. -/
def findNamed {α : Type} (nameOf : α → String) (name : String) (items : List α) : Option α :=
  match items.find? (nameOf · == name) with
  | some a => some a
  | none => items.find? fun a => (nameOf a).equalsIgnoringCase name

/-- Among the items of a list with the name of one of them there is a first one. -/
theorem exists_find?_of_mem {α : Type} {nameOf : α → String} {items : List α} {a : α}
    (h : a ∈ items) :
    ∃ b ∈ items, items.find? (nameOf · == nameOf a) = some b ∧ nameOf b = nameOf a := by
  have hsome : (items.find? (nameOf · == nameOf a)).isSome :=
    List.find?_isSome.mpr ⟨a, h, by simp⟩
  obtain ⟨b, hb⟩ := Option.isSome_iff_exists.mp hsome
  exact ⟨b, List.mem_of_find?_eq_some hb, hb, by simpa using List.find?_some hb⟩

/-- An item is found by its own name, or another item of this name is. -/
theorem findNamed_of_mem {α : Type} {nameOf : α → String} {items : List α} {a : α} (h : a ∈ items) :
    ∃ b, findNamed nameOf (nameOf a) items = some b ∧ nameOf b = nameOf a := by
  obtain ⟨b, -, hb, hname⟩ := @exists_find?_of_mem _ nameOf _ _ h
  exact ⟨b, by rw [findNamed, hb], hname⟩

end Listing
