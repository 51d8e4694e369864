import Listing.Query.Operator
import Listing.Query.Value

/-!
# Clauses

A `Clause` is a condition on the documents of the search index. Its atoms test one field each; a
field that a document does not have meets none of them. Unlike a condition of the relational store
a clause is either met or not.
-/

namespace Listing.Search

/-- A condition on a document. -/
inductive Clause where
  /-- Every document meets it. -/
  | matchAll
  /-- The field has the value. -/
  | term (field : String) (value : Value)
  /-- The field is there. -/
  | present (field : String)
  /-- The field compares with the bound as the operator says. -/
  | range (field : String) (op : Operator) (bound : Value)
  /-- The whole text of the field fits the expression. -/
  | fits (field : String) (expression : List Char)
  /-- All words of the text are found in the fields; if `fuzzy`, similar words are found too. -/
  | words (text : String) (fields : List String) (fuzzy : Bool)
  /-- All clauses are met. -/
  | allOf (clauses : List Clause)
  /-- At least one clause is met. -/
  | someOf (clauses : List Clause)
  /-- The clause is not met. -/
  | noneOf (clause : Clause)
deriving Repr, Inhabited

namespace Clause

/-- An object with one member. -/
def only (name : String) (value : Json) : Json := .object [(name, value)]

/-- The clause for finding words. -/
def wordsJson (text : String) (fields : List String) (fuzzy : Bool) : Json :=
  only "multi_match" (.ofPairs
    ([("query", .string text), ("fields", .array (fields.map .string)),
      ("operator", .string "and"), ("lenient", .bool true)] ++
      (if fuzzy then [("fuzziness", .string "AUTO")] else [])))

mutual

/-- A clause as it is sent. -/
def json : Clause → Json
  | matchAll => only "match_all" (.object [])
  | term field value => only "term" (only field value.json)
  | present field => only "exists" (only "field" (.string field))
  | range field op bound => only "range" (only field (only op.word bound.json))
  | fits field expression =>
    only "regexp" (only field (only "value" (.string (String.ofList expression))))
  | words text fields fuzzy => wordsJson text fields fuzzy
  | allOf clauses => only "bool" (only "must" (.array (jsons clauses)))
  | someOf clauses =>
    only "bool"
      (.ofPairs [("should", .array (jsons clauses)), ("minimum_should_match", .integer 1)])
  | noneOf clause => only "bool" (only "must_not" (.array [clause.json]))

/-- Clauses as they are sent. -/
def jsons : List Clause → List Json
  | [] => []
  | c :: rest => c.json :: jsons rest

end

end Clause

end Listing.Search
