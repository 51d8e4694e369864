import Listing.Calendar.Instant
import Listing.Number.Binary64

/-!
# Statements

The part of SQL that list requests need: a selection from one table with a filter, an order and a
page. Names are kept without quotes; they get them when a statement is written.

Parentheses are part of the tree (`Expr.nested`). The functions that put expressions together add
them wherever the meaning could hang on them, and a later pass removes those that are not needed.
-/

namespace Listing.Sql

open Number (Binary64)

/-- A constant. -/
inductive Literal where
  /-- No value. -/
  | null
  /-- A truth value. -/
  | boolean (b : Bool)
  /-- An integer. -/
  | integer (n : Int)
  /-- A floating-point number. -/
  | float (x : Binary64)
  /-- A text. -/
  | string (s : String)
  /-- A moment of time. -/
  | timestamp (i : Calendar.Instant)
deriving DecidableEq, Repr

/-- An operator between two operands. -/
inductive BinaryOp where
  /-- Equality. -/
  | eq
  /-- Below. -/
  | lt
  /-- At or below. -/
  | le
  /-- Above. -/
  | gt
  /-- At or above. -/
  | ge
  /-- Both. -/
  | and
  /-- Either. -/
  | or
  /-- The text on the left has a part that fits the expression on the right. -/
  | fits
deriving DecidableEq, Repr

/-- An expression. -/
inductive Expr where
  /-- A column of the table. -/
  | column (name : String)
  /-- A constant. -/
  | literal (l : Literal)
  /-- An operation on two operands. -/
  | binary (left : Expr) (op : BinaryOp) (right : Expr)
  /-- The denial of a truth value. -/
  | not (e : Expr)
  /-- A function of some arguments. -/
  | call (name : String) (args : List Expr)
  /-- Whether a value is one of a list, or whether it is none of them. -/
  | inList (e : Expr) (items : List Expr) (negated : Bool)
  /-- Whether there is no value, or whether there is one. -/
  | isNull (e : Expr) (negated : Bool)
  /-- A value of another type. -/
  | cast (e : Expr) (type : String)
  /-- All columns. -/
  | wildcard
  /-- An expression in parentheses. -/
  | nested (e : Expr)
deriving Repr, Inhabited

namespace Expr

/-- A truth value. -/
def boolean (b : Bool) : Expr := literal (.boolean b)

/-- A text. -/
def string (s : String) : Expr := literal (.string s)

/-- The denial of an expression in parentheses. -/
def negate (e : Expr) : Expr := not (nested e)

/-- A truth value that is false where it was unknown. -/
def orFalse (e : Expr) : Expr := call "COALESCE" [e, boolean false]

/-- Expressions in parentheses with an operator between them, grouped from the left. -/
def join? (op : BinaryOp) : List Expr → Option Expr
  | [] => none
  | e :: rest => some (rest.foldl (fun joined r => binary joined op (nested r)) (nested e))

end Expr

/-- An item of what is selected. -/
inductive Item where
  /-- All columns. -/
  | wildcard
  /-- An expression, perhaps under another name. -/
  | expr (e : Expr) (alias? : Option String)
deriving Repr

/-- A table, perhaps of a schema. -/
structure Table where
  /-- The schema, if it is not the usual one. -/
  schema : Option String
  /-- The name of the table. -/
  name : String
deriving DecidableEq, Repr

/-- A key of an order. -/
structure OrderKey where
  /-- What the rows are ordered by. -/
  expr : Expr
  /-- Whether small values come first. -/
  ascending : Bool
deriving Repr

/-- A selection from one table. -/
structure Statement where
  /-- What is selected; nothing stands for all columns. -/
  items : List Item
  /-- The table. -/
  table : Option Table
  /-- Which rows are selected; all without a filter. -/
  filter : Option Expr
  /-- The order of the rows. -/
  order : List OrderKey
  /-- The largest number of rows. -/
  limit : Option Expr
  /-- The number of rows in front of those that are selected. -/
  offset : Option Expr
deriving Repr

end Listing.Sql
