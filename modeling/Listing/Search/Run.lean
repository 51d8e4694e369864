import Listing.Search.Client
import Listing.Search.Compile
import Listing.Store.Run

/-!
# List requests to the search index

A request to the search index is a conversation in a fixed order: whether the index exists, the
count, a point in time, the documents, and the end of the point in time, which is sent whatever
happened to the documents and whose answer does not matter.

The index refuses to look further than `window` documents ahead. A page behind that is reached by
walking the point in time from its start in batches of `window` documents, each of which starts
behind the last document of the one before.

Before a walk a list for the documents of the page is made. A list that would have more bytes than
a signed number can count cannot be made, and the request **crashes** there, with the point in time
open. What gives it back then is left to be sent behind the request. Lists that are too large for
the memory that there is are not told apart from others here.
-/

namespace Listing.Search

/-- The number of documents that the index looks ahead. -/
def window : Nat := 10000

/-- How long a point in time is kept after each request. -/
def keepAlive : String := "2m"

variable {m : Type → Type} [Monad m]

/-- The bytes that a document takes in a list. -/
def hitBytes : Nat := 48

/-- Whether a list of so many documents can be made. -/
def hasRoom (count : Nat) : Bool := count * hitBytes < Number.signedBound

/-- How a program **ends**. -/
inductive Ended (α : Type) where
  /-- It returns a result. -/
  | returned (result : α)
  /-- It crashes, and the requests that are left are sent behind it. -/
  | crashed (left : List Request)

/-- An end with another result. -/
def Ended.map {α β : Type} (f : α → β) : Ended α → Ended β
  | returned a => returned (f a)
  | crashed left => crashed left

/-- What a request for documents says, whatever page it asks for. -/
structure Question where
  /-- The clause that the documents meet. -/
  query : Json
  /-- The order of the documents. -/
  sort : List Json
  /-- The fields of the documents that are sent, if not all are. -/
  source : Option Json

/-- The question of a model. -/
def questionOf (model : Model) (query : Json) : Question :=
  ⟨query, sortJson model, sourceJson? model⟩

/-- The body of a request for documents of a point in time, where `more` says which of them. -/
def Question.body (q : Question) (pointInTime : String) (size : Nat) (more : List (String × Json)) :
    Json :=
  .ofPairs
    ([("query", q.query), ("sort", .array q.sort), ("size", .integer size),
      ("pit", .ofPairs [("id", .string pointInTime), ("keep_alive", .string keepAlive)]),
      ("track_total_hits", .bool false)] ++
      (q.source.map fun s => ("_source", s)).toList ++ more)

/-- What a series of requests for documents ends with: the point in time to give back, and the
documents or a failure. -/
abbrev Outcome := String × Except BackendError (List Hit)

/-- Asks for a page that the index can look ahead to. -/
def fetchNear (c : Client m) (q : Question) (pointInTime : String) (skip limit : Nat) :
    m Outcome := do
  match ← c.search (q.body pointInTime limit [("from", .integer skip)]) with
  | .error e => return (pointInTime, .error e)
  | .ok found => return (found.pointInTime.getD pointInTime, .ok found.hits)

/-- The part of a batch that belongs to the documents from `skip` to `stop`, where `seen` documents
came before it. -/
def kept (skip stop seen : Nat) (batch : List Hit) : List Hit :=
  (batch.drop (skip - seen)).take (min stop (seen + batch.length) - seen - (skip - seen))

/-- Walks on to the documents from `skip` to `stop`, where `seen` documents have been passed and
the last of them had the values `after`. Every batch but an empty one passes a document, so the
walk ends; `left` bounds the number of batches. -/
def walk (c : Client m) (q : Question) (skip stop : Nat) :
    (left : Nat) → (pointInTime : String) → (seen : Nat) → (after : Option (List Json)) →
    m Outcome
  | 0, pointInTime, _, _ => return (pointInTime, .ok [])
  | left + 1, pointInTime, seen, after => do
    let more := (after.map fun values => ("search_after", Json.array values)).toList
    match ← c.search (q.body pointInTime window more) with
    | .error e => return (pointInTime, .error e)
    | .ok found =>
      let pointInTime := found.pointInTime.getD pointInTime
      match found.hits.getLast? with
      | none => return (pointInTime, .ok [])
      | some last =>
        let part := kept skip stop seen found.hits
        let passed := seen + found.hits.length
        if stop ≤ passed then return (pointInTime, .ok part)
        else
          match last.sort with
          | none => return (pointInTime, .error (.response "search hit carries no sort values"))
          | some values =>
            let (pointInTime, rest) ← walk c q skip stop left pointInTime passed (some values)
            return (pointInTime, rest.map (part ++ ·))

/-- Asks for the documents of a page. A page without documents needs no request, and a list for the
documents is made before a walk only. -/
def fetch (c : Client m) (q : Question) (pointInTime : String) (skip limit : Nat) :
    m (Ended Outcome) := do
  let stop := min (skip + limit) (Number.countBound - 1)
  if limit = 0 then return .returned (pointInTime, .ok [])
  else if stop ≤ window then return .returned (← fetchNear c q pointInTime skip limit)
  else if hasRoom limit then return .returned (← walk c q skip stop stop pointInTime 0 none)
  else return .crashed []

/-- Asks for the documents of a page at a new point in time and gives it back. After a crash, which
comes before any answer could renew it, that is left to be done. -/
def fetchAtOnce (c : Client m) (index : String) (q : Question) (skip limit : Nat) :
    m (Ended (Except BackendError (List Hit))) := do
  match ← c.openPointInTime index keepAlive with
  | .error e => return .returned (.error e)
  | .ok opened =>
    match ← fetch c q opened skip limit with
    | .crashed left => return .crashed (left ++ [closeRequest opened])
    | .returned (pointInTime, hits) =>
      let _ ← c.closePointInTime pointInTime
      return .returned hits

/-- The page of the documents that were found, of so many in all. -/
def pageOf {α : Type} (decode : Members → Option α) (model : Model) (total : Int) :
    Except BackendError (List Hit) → Except QueryError (Page α)
  | .error e => .error (.backend e)
  | .ok hits =>
    let records := hits.map fun hit => toRecord model.entity hit.source
    (Store.decodeAll decode records).map fun found => ⟨found, total⟩

/-- Runs a request on the search index. An index that does not exist has no records. -/
def run {α : Type} (c : Client m) (before : String) (decode : Members → Option α)
    (model : Model) : m (Ended (Except QueryError (Page α))) := do
  let index := model.entity.indexName before
  match ← c.indexExists index with
  | .error e => return .returned (.error (.backend e))
  | .ok false => return .returned (.ok ⟨[], 0⟩)
  | .ok true =>
    match queryClause model with
    | .error failures => return .returned (.error (.compile failures))
    | .ok clause =>
      match ← c.count index clause.json with
      | .error e => return .returned (.error (.backend e))
      | .ok total =>
        let ended ← fetchAtOnce c index (questionOf model clause.json) model.skip model.limit
        return ended.map (pageOf decode model total)

end Listing.Search
