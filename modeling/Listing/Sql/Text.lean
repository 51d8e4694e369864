import Listing.Number.Shortest
import Listing.Sql.Basic

/-!
# Writing statements

`Statement.text` is the text of a statement. Every name is in double quotes and every text in
single quotes, with the quotes inside doubled, so that no name and no text can end early.
-/

namespace Listing.Sql

/-- A text in quotes, with each quote inside written twice. -/
def enclose (quote : Char) (s : String) : String :=
  String.ofList (quote :: s.toList.flatMap (fun c => if c = quote then [c, c] else [c]) ++ [quote])

/-- A name in quotes. -/
def quoteName (name : String) : String := enclose '"' name

/-- A text in quotes. -/
def quoteText (s : String) : String := enclose '\'' s

/-- A constant as it is written. -/
def Literal.text : Literal → String
  | null => "NULL"
  | boolean b => if b then "TRUE" else "FALSE"
  | integer n => toString n
  | float x => x.plainText
  | string s => quoteText s
  | timestamp i => "CAST(" ++ quoteText i.text ++ " AS TIMESTAMPTZ)"

/-- An operator as it is written. -/
def BinaryOp.text : BinaryOp → String
  | eq => "="
  | lt => "<"
  | le => "<="
  | gt => ">"
  | ge => ">="
  | and => "AND"
  | or => "OR"
  | fits => "~"

namespace Expr

mutual

/-- An expression as it is written. -/
def text : Expr → String
  | column name => quoteName name
  | literal l => l.text
  | binary left op right => left.text ++ " " ++ op.text ++ " " ++ right.text
  | not e => "NOT " ++ e.text
  | call name args => name ++ "(" ++ ", ".intercalate (texts args) ++ ")"
  | inList e items negated =>
    e.text ++ (if negated then " NOT IN (" else " IN (") ++ ", ".intercalate (texts items) ++ ")"
  | isNull e negated => e.text ++ (if negated then " IS NOT NULL" else " IS NULL")
  | cast e type => "CAST(" ++ e.text ++ " AS " ++ type ++ ")"
  | wildcard => "*"
  | nested e => "(" ++ e.text ++ ")"

/-- Several expressions as they are written. -/
def texts : List Expr → List String
  | [] => []
  | e :: rest => e.text :: texts rest

end

end Expr

/-- A selected item as it is written. -/
def Item.text : Item → String
  | wildcard => "*"
  | expr e none => e.text
  | expr e (some name) => e.text ++ " AS " ++ quoteName name

/-- A table as it is written. -/
def Table.text (t : Table) : String :=
  match t.schema with
  | some schema => quoteName schema ++ "." ++ quoteName t.name
  | none => quoteName t.name

/-- A key of an order as it is written. -/
def OrderKey.text (k : OrderKey) : String :=
  k.expr.text ++ (if k.ascending then " ASC" else " DESC")

/-- The clauses of a statement as they are written. -/
def Statement.clauses (s : Statement) : List String :=
  let items := if s.items.isEmpty then "*" else ", ".intercalate (s.items.map (·.text))
  ["SELECT " ++ items] ++
    (s.table.map fun t => "FROM " ++ t.text).toList ++
    (s.filter.map fun e => "WHERE " ++ e.text).toList ++
    (if s.order.isEmpty then []
      else ["ORDER BY " ++ ", ".intercalate (s.order.map (·.text))]) ++
    (s.limit.map fun e => "LIMIT " ++ e.text).toList ++
    (s.offset.map fun e => "OFFSET " ++ e.text).toList

/-- A statement as it is written. -/
def Statement.text (s : Statement) : String := " ".intercalate s.clauses

end Listing.Sql
