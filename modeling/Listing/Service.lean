import Listing.Query.Builder
import Listing.Query.Parser
import Listing.Search.Run

/-!
# The list service

`Service.list` answers a list request: the name of an entity and a query string. Requests that look
for texts in an indexed entity go to the search index if there is one, all others to the relational
store. Everything that can be wrong with a request is found before a store is asked.

A request returns a page or an error. Only on the search index it may crash instead.
-/

namespace Listing

/-- The two kinds of stores. -/
inductive StoreKind where
  /-- The relational store. -/
  | relational
  /-- The search index. -/
  | searchIndex
deriving DecidableEq, Repr

/-- The word for a kind of store. -/
def StoreKind.word : StoreKind → String
  | relational => "relational"
  | searchIndex => "search-index"

/-- The store that answers a request; `searchable` says whether there is a search index. -/
def storeFor (searchable : Bool) (model : Model) : StoreKind :=
  if model.entity.indexed && model.hasTerms && searchable then .searchIndex else .relational

/-- A search index and what stands in front of the names in it. -/
structure SearchIndex (m : Type → Type) where
  /-- How requests are sent. -/
  client : Search.Client m
  /-- What stands in front of the name of an entity. -/
  before : String

/-- The stores that answer requests. -/
structure Stores (m : Type → Type) where
  /-- The relational store. -/
  executor : Store.Executor m
  /-- The search index, if there is one. -/
  search : Option (SearchIndex m)
  /-- The entities by which relations are followed. -/
  registry : Registry

variable {m : Type → Type} [Monad m]

/-- Runs a request on the store that answers it. -/
def Stores.run {α : Type} (stores : Stores m) (decode : Members → Option α) (model : Model) :
    m (Search.Ended (Except QueryError (Page α))) := do
  match storeFor stores.search.isSome model, stores.search with
  | .searchIndex, some index => Search.run index.client index.before decode model
  | _, _ => return .returned (← Store.run stores.executor stores.registry decode model)

/-- The model that a query string asks for. -/
def Model.ofQuery (entity : Entity) (maxLimit : Nat) (query : String) : Except QueryError Model :=
  match Directive.parse query with
  | .error e => .error (.parse e)
  | .ok directives => (Model.build directives maxLimit entity).mapError .validation

/-- The list service. -/
structure Service (m : Type → Type) where
  /-- The entities that can be listed. -/
  registry : Registry
  /-- The stores that answer requests. -/
  stores : Stores m
  /-- The largest page of an entity that has no limit of its own. -/
  maxListSize : Nat

/-- The model of a list request. -/
def Service.model (s : Service m) (entity query : String) : Except QueryError Model :=
  match s.registry.get? entity with
  | none => .error (.unknownEntity entity)
  | some e => Model.ofQuery e (e.maxListSize.getD s.maxListSize) query

/-- Answers a list request. -/
def Service.list {α : Type} (s : Service m) (decode : Members → Option α) (entity query : String) :
    m (Search.Ended (Except QueryError (Page α))) :=
  match s.model entity query with
  | .error e => return .returned (.error e)
  | .ok model => s.stores.run decode model

/-- The headers that go with a page. -/
def Page.headers {α : Type} (page : Page α) : List (String × String) :=
  [("X-Total-Count", toString page.total)]

end Listing
