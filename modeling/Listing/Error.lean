import Listing.Query.Fault
import Listing.Store.Report

/-!
# Errors of list requests

A list request fails because of what was asked, because the entity does not exist, or because of a
store. The `Status` of an error says whose fault it is. Requests that are refused report every
failure, and failures of a store are passed on with all that the store said.
-/

namespace Listing

/-- A failure of one of the two stores, or on the way to it. -/
inductive BackendError where
  /-- The relational store refused a statement or could not be reached. -/
  | relational (report : Store.Report)
  /-- No connection to the relational store could be handed out. -/
  | pool (message : String)
  /-- The search index answered with a status that is no success. -/
  | search (status : Nat) (body : String)
  /-- The search index could not be reached, or its answer could not be read. -/
  | transport (unreadable : Bool)
  /-- The search index answered something unexpected. -/
  | response (message : String)
deriving DecidableEq, Repr

/-- The text of a failure of a store. -/
def BackendError.message : BackendError → String
  | relational report => "relational store error: " ++ report.fullText
  | pool message => "relational connection pool error: " ++ message
  | search status body => "search backend returned " ++ toString status ++ ": " ++ body
  | transport unreadable =>
    "search backend request failed: " ++
      (if unreadable then "error decoding response body" else "error sending request")
  | response message => "unexpected search backend response: " ++ message

/-- Whose fault an error is. -/
inductive Status where
  /-- The request asks for something that cannot be done. -/
  | badRequest
  /-- The request asks for something that is not there. -/
  | notFound
  /-- The request is right. -/
  | internal
deriving DecidableEq, Repr

/-- The word for a status. -/
def Status.word : Status → String
  | badRequest => "BadRequest"
  | notFound => "NotFound"
  | internal => "Internal"

/-- The code for a status in an HTTP answer. -/
def Status.httpCode : Status → Nat
  | badRequest => 400
  | notFound => 404
  | internal => 500

/-- Why a list request fails. -/
inductive QueryError where
  /-- The query string is malformed. -/
  | parse (e : ParseError)
  /-- The query string asks for what the entity does not have. -/
  | validation (failures : List Failure)
  /-- The query cannot be put to the store. -/
  | compile (failures : List Failure)
  /-- A store failed. -/
  | backend (e : BackendError)
  /-- There is no such entity. -/
  | unknownEntity (name : String)
  /-- A record has not the expected form. -/
  | decode
deriving DecidableEq, Repr

namespace QueryError

/-- The text of an error. -/
def message : QueryError → String
  | parse e => e.message
  | validation failures => "invalid query: " ++ Failure.join failures
  | compile failures => "query compilation failed: " ++ Failure.join failures
  | backend e => e.message
  | unknownEntity name => "unknown entity '" ++ name ++ "'"
  | decode => "failed to decode record"

/-- Whose fault an error is. -/
def status : QueryError → Status
  | parse _ | validation _ | compile _ => .badRequest
  | unknownEntity _ => .notFound
  | backend _ | decode => .internal

/-- Validation failures are an error only if there are any. -/
def ofValidation? (failures : List Failure) : Except QueryError Unit :=
  if failures.isEmpty then .ok () else .error (.validation failures)

/-- Failures to put a query to a store are an error only if there are any. -/
def ofCompile? (failures : List Failure) : Except QueryError Unit :=
  if failures.isEmpty then .ok () else .error (.compile failures)

end QueryError

end Listing
