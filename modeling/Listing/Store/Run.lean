import Listing.Schema.Registry
import Listing.Sql.Compile
import Listing.Store.Executor
import Listing.Store.Include

/-!
# List requests to the relational store

A request to the relational store is a conversation in a fixed order: the count, the page, and then
one statement for each relation that is to be followed. The first failure ends it. A relation that
no record refers along needs no statement, and a request for single fields follows none.
-/

namespace Listing

/-- A page of records and the number of all records that meet the conditions. -/
structure Page (α : Type) where
  /-- The records of the page. -/
  records : List α
  /-- The number of all records. -/
  total : Int
deriving DecidableEq, Repr

namespace Store

variable {m : Type → Type} [Monad m]

/-- What a relation needs besides the records: the member of a record that is referred by, the
related entity, its field that is referred to, and how what is found is added to a record. -/
structure Join where
  /-- The member whose values are collected. -/
  reference : String
  /-- The related entity. -/
  target : Entity
  /-- The field of the related entity that has one of the values. -/
  key : Field
  /-- Adds the related records to a record. -/
  attach : List Members → Members → Members

/-- How a relation of an entity is followed, or why it cannot be. -/
def resolve (registry : Registry) (e : Entity) (r : Relation) : Except QueryError Join :=
  match registry.get? r.target with
  | none => .error (.compile [⟨r.name, "unknown relation target '" ++ r.target ++ "'"⟩])
  | some target =>
    match r.link with
    | .belongsTo field =>
      let localName := (e.field? field).map (·.name)
      .ok ⟨localName.getD field, target, target.identity,
        attachOne r.name localName target.identity.name⟩
    | .hasMany foreignKey =>
      match target.field? foreignKey with
      | none =>
        .error (.compile
          [⟨r.name, "'" ++ foreignKey ++ "' is not a field of '" ++ target.name ++ "'"⟩])
      | some foreign =>
        .ok ⟨e.identity.name, target, foreign, attachMany r.name e.identity.name foreign.name⟩

/-- The statement for the related records of some records; none if no record refers along the
relation. -/
def Join.statement? (l : Join) (records : List Members) : Option String :=
  match references l.reference records with
  | [] => none
  | keys =>
    some (Sql.includeStatement l.target l.key (keys.filterMap referenceLiteral?)).render

/-- Follows a relation for some records. -/
def follow (executor : Executor m) (registry : Registry) (e : Entity) (r : Relation)
    (records : List Members) : m (Except QueryError (List Members)) :=
  match resolve registry e r with
  | .error err => return .error err
  | .ok join =>
    match join.statement? records with
    | none => return .ok (records.map (join.attach []))
    | some statement => do
      match ← executor.records statement with
      | .error err => return .error (.backend err)
      | .ok related => return .ok (records.map (join.attach related))

/-- Follows several relations, one after the other. -/
def followAll (executor : Executor m) (registry : Registry) (e : Entity) :
    List Relation → List Members → m (Except QueryError (List Members))
  | [], records => return .ok records
  | r :: rest, records => do
    match ← follow executor registry e r records with
    | .error err => return .error err
    | .ok records => followAll executor registry e rest records

/-- The relations that a request follows. -/
def followed (model : Model) : List Relation := if model.isProjection then [] else model.includes

/-- The records in the form that was asked for, if all of them have it. -/
def decodeAll {α : Type} (decode : Members → Option α) (records : List Members) :
    Except QueryError (List α) :=
  match records.mapM decode with
  | some found => .ok found
  | none => .error .decode

/-- Runs a request on the relational store. -/
def run {α : Type} (executor : Executor m) (registry : Registry) (decode : Members → Option α)
    (model : Model) : m (Except QueryError (Page α)) :=
  match Sql.countText model with
  | .error failures => return .error (.compile failures)
  | .ok countText => do
    match ← executor.count countText with
    | .error err => return .error (.backend err)
    | .ok total =>
      match Sql.pageText model with
      | .error failures => return .error (.compile failures)
      | .ok pageText =>
        match ← executor.records pageText with
        | .error err => return .error (.backend err)
        | .ok records =>
          match ← followAll executor registry model.entity (followed model) records with
          | .error err => return .error err
          | .ok records => return (decodeAll decode records).map fun found => ⟨found, total⟩

end Store

end Listing
