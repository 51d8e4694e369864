import Listing.Error
import Listing.Store.Cell

/-!
# Running statements

An `Executor` runs statements on the relational store and returns records or a count. How a
statement gets to the store is left open: an executor acts in any monad `m`. `Server.executor` is
the executor of a server that is connected to first and then given the statement, and
`Script.executor` the one with which conversations with the relational store are observed.
-/

namespace Listing.Store

/-- Something that runs statements. -/
structure Executor (m : Type → Type) where
  /-- The number that a statement selects. -/
  count : String → m (Except BackendError Int)
  /-- The records that a statement selects. -/
  records : String → m (Except BackendError (List Members))

/-- Why a server did not answer. -/
inductive ServerFault where
  /-- The server says what is wrong. -/
  | server (e : ServerError)
  /-- Something is wrong on this side, perhaps with a known cause. -/
  | client (message : String) (cause : Option String)
deriving Repr

/-- The report of a fault with a statement. -/
def ServerFault.report (statement : String) : ServerFault → Report
  | server e => .ofServer e statement
  | client message cause => .ofClient message cause

/-- A server of the relational store. -/
structure Server (m : Type → Type) where
  /-- Makes sure that there is a connection. -/
  connect : m (Except ServerFault Unit)
  /-- Runs a statement. -/
  run : String → m (Except ServerFault RowSet)

/-- The rows that a statement selects on a server. Faults of the connection are not about the
statement. -/
def Server.rows {m : Type → Type} [Monad m] (server : Server m) (statement : String) :
    m (Except BackendError RowSet) := do
  match ← server.connect with
  | .error fault => return .error (.relational (fault.report ""))
  | .ok () =>
    match ← server.run statement with
    | .error fault => return .error (.relational (fault.report statement))
    | .ok found => return .ok found

/-- The executor of a server. -/
def Server.executor {m : Type → Type} [Monad m] (server : Server m) : Executor m where
  count statement := do
    match ← server.rows statement with
    | .error e => return .error e
    | .ok found => return found.count?.mapError .relational
  records statement := do
    match ← server.rows statement with
    | .error e => return .error e
    | .ok found => return .ok found.records

/-! ### Scripted answers -/

/-- The answers that an executor is going to give, one list for counts and one for records, and the
statements that it was given so far. After the last answer counts are 0 and there are no records. -/
structure Script where
  /-- The answers to statements for a count. -/
  counts : List (Except BackendError Int)
  /-- The answers to statements for records. -/
  pages : List (Except BackendError (List Members))
  /-- The statements so far, in order. -/
  sent : List String

/-- An executor that answers from a script. -/
def Script.executor : Executor (StateM Script) where
  count statement := fun s =>
    (s.counts.headD (.ok 0), { s with counts := s.counts.tail, sent := s.sent ++ [statement] })
  records statement := fun s =>
    (s.pages.headD (.ok []), { s with pages := s.pages.tail, sent := s.sent ++ [statement] })

end Listing.Store
