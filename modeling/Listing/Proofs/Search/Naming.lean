import Listing.Proofs.Json.Members
import Listing.Search.Compile

/-!
# Names in Documents

A field has a name in records and another one in the documents of the search index, which follows
from the first. Filters, orders and what is asked for use the second, and `toRecord` goes back to
the first. `toDocument` is the way there. Two names of fields may differ in the case of the first
letter only; then they have one name in documents, and only the field that is declared first is
found again.

## Main results

* `toRecord_toDocument_iff` — a record comes back if each of its names does.
* `toRecord_toDocument_iff_nodup` — all records of an entity come back just if no two of its fields
  have one name in documents.
-/

namespace Listing.Search

/-! ### There and back -/

/-- The name in a document of a member of a record. What is no field keeps its name. -/
def documentName (e : Entity) (name : String) : String :=
  ((e.fields.find? (·.name == name)).map (·.indexField)).getD name

/-- The document of a record. If two members get the same name, the later one counts. -/
def toDocument (e : Entity) (record : Members) : Members :=
  Members.ofPairs (record.map fun p => (documentName e p.1, p.2))

/-- A name **comes back** if the field that has it in records is found by what it is called in
documents. -/
def ComesBack (e : Entity) (name : String) : Prop := recordName e (documentName e name) = name

variable {e : Entity} {f : Field} {record : Members}

/-- A field is found by its name in records. -/
theorem documentName_of_mem (hf : f ∈ e.fields) : documentName e f.name = f.indexField := by
  obtain ⟨g, hmem, hg, hname⟩ := @exists_find?_of_mem _ Field.name _ _ hf
  obtain rfl : g = f := List.inj_on_of_nodup_map e.names_nodup hmem hf hname
  rw [documentName, hg, Option.map_some, Option.getD_some]

/-- The field that is found by the name of a field in documents is called the same there. -/
theorem exists_recordName (hf : f ∈ e.fields) : ∃ g ∈ e.fields,
    recordName e f.indexField = g.name ∧ g.indexField = f.indexField := by
  obtain ⟨g, hmem, hg, hindex⟩ := @exists_find?_of_mem _ Field.indexField _ _ hf
  refine ⟨g, hmem, ?_, hindex⟩
  rw [recordName, Entity.fieldOfIndex?, hg, Option.map_some, Option.getD_some]

/-- The name that a declared name comes back as **comes back** itself. -/
theorem comesBack_recordName (hf : f ∈ e.fields) :
    ComesBack e (recordName e (documentName e f.name)) := by
  rw [documentName_of_mem hf]
  obtain ⟨g, hg, hname, hindex⟩ := exists_recordName hf
  rw [ComesBack, hname, documentName_of_mem hg, hindex, hname]

/-! ### Records -/

/-- The names of a record that goes to a document and back are those that its names come back
as. -/
theorem mem_toRecord_toDocument {name : String}
    (h : name ∈ (toRecord e (toDocument e record)).map (·.1)) :
    ∃ p ∈ record, recordName e (documentName e p.1) = name := by
  obtain ⟨q, hq, hname⟩ := List.mem_map.mp (Members.mem_of_mem_ofPairs h)
  obtain ⟨r, hr, rfl⟩ := List.mem_map.mp hq
  obtain ⟨s, hs, hsource⟩ :=
    List.mem_map.mp (Members.mem_of_mem_ofPairs (List.mem_map_of_mem (f := (·.1)) hr))
  obtain ⟨p, hp, rfl⟩ := List.mem_map.mp hs
  exact ⟨p, hp, by rw [← hname, ← hsource]⟩

/-- A record of which every name comes back **comes back**. -/
theorem toRecord_toDocument (hordered : record.Ordered)
    (h : ∀ name ∈ record.map (·.1), ComesBack e name) :
    toRecord e (toDocument e record) = record := by
  have hnodup : (record.map (·.1)).Nodup := (List.pairwise_map.mpr hordered).imp ne_of_lt
  have hback : ((record.map fun p => (documentName e p.1, p.2)).map fun p =>
      (recordName e p.1, p.2)) = record := by
    rw [List.map_map]
    refine (List.map_congr_left fun p hp => ?_).trans record.map_id
    exact Prod.ext (h p.1 (List.mem_map_of_mem hp)) rfl
  -- Two members with one name in the document would come back under one name.
  have hnames : ((record.map fun p => (documentName e p.1, p.2)).map (·.1)).Nodup := by
    refine List.Nodup.of_map (recordName e) ?_
    rw [← hback] at hnodup
    rwa [List.map_map] at hnodup ⊢
  have hperm : ((toDocument e record).map fun p => (recordName e p.1, p.2)).Perm record := by
    have hperm := (Members.ofPairs_perm hnames).map fun p => (recordName e p.1, p.2)
    rwa [hback] at hperm
  calc toRecord e (toDocument e record) = Members.ofPairs record :=
        Members.foldl_insert_of_perm hperm ((hperm.map _).nodup_iff.mpr hnodup) []
    _ = record := Members.ofPairs_of_ordered hordered

/-- A record of declared fields comes back **just if** each of its names does. -/
theorem toRecord_toDocument_iff (hordered : record.Ordered)
    (hdeclared : ∀ name ∈ record.map (·.1), name ∈ e.fields.map (·.name)) :
    toRecord e (toDocument e record) = record ↔ ∀ name ∈ record.map (·.1), ComesBack e name := by
  refine ⟨fun h name hname => ?_, toRecord_toDocument hordered⟩
  rw [← h] at hname
  obtain ⟨p, hp, rfl⟩ := mem_toRecord_toDocument hname
  obtain ⟨f, hf, hfield⟩ := List.mem_map.mp (hdeclared p.1 (List.mem_map_of_mem hp))
  rw [← hfield]
  exact comesBack_recordName hf

/-! ### Entities -/

/-- All records of declared fields of an entity **come back** just if no two of its fields have
one name in documents. -/
theorem toRecord_toDocument_iff_nodup (e : Entity) :
    (∀ record : Members, record.Ordered →
      (∀ name ∈ record.map (·.1), name ∈ e.fields.map (·.name)) →
      toRecord e (toDocument e record) = record) ↔ (e.fields.map (·.indexField)).Nodup := by
  constructor
  · intro h
    -- A record of one field comes back, so its name does.
    have hback : ∀ f ∈ e.fields, recordName e f.indexField = f.name := by
      intro f hf
      have hdeclared : ∀ name ∈ ([(f.name, .null)] : Members).map (·.1),
          name ∈ e.fields.map (·.name) := by
        simpa using ⟨f, hf, rfl⟩
      have hordered : Members.Ordered [(f.name, .null)] := List.pairwise_singleton _ _
      have hname := (toRecord_toDocument_iff hordered hdeclared).mp (h _ hordered hdeclared) f.name
        (by simp)
      rwa [ComesBack, documentName_of_mem hf] at hname
    refine (List.nodup_map_iff_inj_on e.names_nodup.of_map).mpr fun f hf g hg hindex => ?_
    refine List.inj_on_of_nodup_map e.names_nodup hf hg ?_
    rw [← hback f hf, ← hback g hg, hindex]
  · intro hnodup record hordered hdeclared
    refine toRecord_toDocument hordered fun name hname => ?_
    obtain ⟨f, hf, rfl⟩ := List.mem_map.mp (hdeclared name hname)
    obtain ⟨g, hg, hrecord, hindex⟩ := exists_recordName hf
    obtain rfl : g = f := List.inj_on_of_nodup_map hnodup hg hf hindex
    rw [ComesBack, documentName_of_mem hf, hrecord]

namespace Sample

/-- Products, of which two fields have one name but for the case of the first letter. -/
def products : Entity where
  name := "Product"
  schema := none
  table := "products"
  indexed := true
  maxListSize := none
  fields := [.ofName "code" .text, .ofName "Code" .integer, .ofName "Id" .integer]
  identity := .ofName "Id" .integer
  relations := []
  names_nodup := by decide
  identity_mem := by simp
  localFields_mem := by simp

end Sample

/-- The field that is declared later comes back as the other one, and of two fields one is lost. -/
theorem toRecord_toDocument_products :
    toRecord Sample.products (toDocument Sample.products [("Code", .integer 1)]) =
      [("code", .integer 1)] ∧
    toRecord Sample.products
      (toDocument Sample.products [("Code", .integer 1), ("code", .string "a")]) =
        [("code", .string "a")] :=
  ⟨rfl, rfl⟩

end Listing.Search
