/-!
# Reports of the relational store

What the relational store, or the connection to it, says when a statement fails: a category, the
message, and whatever else is known. A report of the store itself names a position in the statement,
which is turned into a line and a column.
-/

namespace Listing.Store

/-- The kind of a failure. -/
inductive Category where
  /-- The statement is malformed. -/
  | malformed
  /-- The statement has no meaning for this store. -/
  | meaningless
  /-- The statement failed while it ran. -/
  | execution
  /-- The transaction is in the wrong state. -/
  | transaction
  /-- The store cannot be talked to. -/
  | connection
  /-- Anything else. -/
  | other
deriving DecidableEq, Repr

/-- The words for a category. -/
def Category.text : Category → String
  | malformed => "Syntax Error"
  | meaningless => "Semantic Error"
  | execution => "Execution Error"
  | transaction => "Transaction Error"
  | connection => "Connection Error"
  | other => "Error"

/-- The category of a five-character code of the store, by its first two characters. -/
def Category.ofCode (code : String) : Category :=
  let start := String.ofList (code.toList.take 2)
  if start = "42" then
    if code = "42601" || code = "42000" then malformed else meaningless
  else if start ∈ ["22", "23", "53", "54", "55", "57"] then execution
  else if start ∈ ["25", "40"] then transaction
  else if start = "08" then connection
  else other

/-- A report. -/
structure Report where
  /-- The kind of the failure. -/
  category : Category
  /-- The code of the store, empty if the report is not by the store. -/
  code : String
  /-- What happened. -/
  message : String
  /-- More about it. -/
  detail : Option String
  /-- What could be done. -/
  hint : Option String
  /-- The table that it is about. -/
  table : Option String
  /-- The column that it is about. -/
  column : Option String
  /-- The line of the statement, from 1. -/
  line : Option Nat
  /-- The character of the line, from 1. -/
  place : Option Nat
deriving DecidableEq, Repr

/-- What the store says about a failure. -/
structure ServerError where
  /-- The code of the failure. -/
  code : String
  /-- What happened. -/
  message : String
  /-- More about it. -/
  detail : Option String
  /-- What could be done. -/
  hint : Option String
  /-- The table that it is about. -/
  table : Option String
  /-- The column that it is about. -/
  column : Option String
  /-- The position in the statement, from 1. -/
  position : Option Nat
deriving DecidableEq, Repr

/-- The line and the place in it after the characters that start before a byte, where `byte` is the
byte at which the rest of the text starts. -/
def lineAndPlaceFrom (target byte line place : Nat) : List Char → Nat × Nat
  | [] => (line, place)
  | c :: cs =>
    if target ≤ byte then (line, place)
    else if c = '\n' then lineAndPlaceFrom target (byte + c.utf8Size) (line + 1) 1 cs
    else lineAndPlaceFrom target (byte + c.utf8Size) line (place + 1) cs

/-- The line and the place in it of a position in a statement; both count from 1, and so does the
position, which counts bytes. -/
def lineAndPlace (statement : String) (position : Nat) : Nat × Nat :=
  if position = 0 then (1, 1)
  else lineAndPlaceFrom (position - 1) 0 1 1 statement.toList

namespace Report

/-- A report that is not by the store. -/
def ofMessage (message : String) : Report :=
  ⟨.other, "", message, none, none, none, none, none, none⟩

/-- A report of a failure on this side of the connection, perhaps with its cause. With a cause it
is taken for a failure of the connection. -/
def ofClient (message : String) (cause : Option String) : Report :=
  { ofMessage message with
    category := if cause.isSome then .connection else .other
    detail := cause }

/-- A report of the store about a statement. -/
def ofServer (e : ServerError) (statement : String) : Report :=
  let found := e.position.map (lineAndPlace statement)
  ⟨.ofCode e.code, e.code, e.message, e.detail, e.hint, e.table, e.column, found.map (·.1),
    found.map (·.2)⟩

/-- Where in the statement the failure is. -/
def placeText (r : Report) : Option String :=
  match r.line, r.place with
  | some line, some place =>
    some ("at line " ++ toString line ++ ", column " ++ toString place)
  | _, _ => none

/-- What the failure is about. -/
def objectText (r : Report) : Option String :=
  match r.table, r.column with
  | some table, some column => some ("object " ++ table ++ "." ++ column)
  | some table, none => some ("table " ++ table)
  | none, _ => none

/-- All of a report in one line. -/
def fullText (r : Report) : String :=
  let code := if r.code.isEmpty then none else some ("SQLSTATE " ++ r.code)
  "; ".intercalate
    ([some (r.category.text ++ ": " ++ r.message), r.placeText, code, r.objectText,
      r.detail.map ("detail: " ++ ·), r.hint.map ("hint: " ++ ·)].filterMap id)

end Report

end Listing.Store
