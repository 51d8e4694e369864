import Listing.Proofs.Sql.Rendering

/-!
# Names and Texts Stay in Their Quotes

`Statement.names` and `Statement.strings` list the names and the texts of a statement from
left to right, read off its tree: its columns, the other names of its items, its schema and
its table; its text constants, and its moments of time as they are written. Among the tokens
of the statement they are one token each, and there are no other names and texts. As the text
of the statement is cut into these tokens, nothing inside a name or a text is ever taken for
a part of the statement.

## Main results

* `Expr.filterMap_tokens` — what a function that only looks at quotes sees of an expression.
* `Statement.lex_text` — the tokens of the text of a plain statement, and the names and texts
  among them.
-/

namespace Listing.Sql

/-! ### Names and texts -/

/-- The texts of a constant: a moment of time is written as one. -/
def Literal.strings : Literal → List String
  | string s => [s]
  | timestamp i => [i.text]
  | _ => []

section Gather

variable {α : Type} (ofName : String → List α) (ofLiteral : Literal → List α)

namespace Expr

mutual

/-- What the columns and the constants of an expression give, from left to right. -/
def gather : Expr → List α
  | column name => ofName name
  | literal l => ofLiteral l
  | wildcard => []
  | binary left _ right => left.gather ++ right.gather
  | not e | isNull e _ | cast e _ | nested e => e.gather
  | call _ args => gatherAll args
  | inList e items _ => e.gather ++ gatherAll items

/-- What the columns and the constants of some expressions give. -/
def gatherAll : List Expr → List α
  | [] => []
  | e :: rest => e.gather ++ gatherAll rest

end

end Expr

/-- What the names and the constants of a selected item give. -/
def Item.gather : Item → List α
  | wildcard => []
  | expr e alias? => e.gather ofName ofLiteral ++ alias?.toList.flatMap ofName

/-- What the names of a table give. -/
def Table.gather (t : Table) : List α := t.schema.toList.flatMap ofName ++ ofName t.name

/-- What the names and the constants of a statement give, from left to right. -/
def Statement.gather (s : Statement) : List α :=
  s.items.flatMap (Item.gather ofName ofLiteral) ++ s.table.toList.flatMap (Table.gather ofName) ++
    s.filter.toList.flatMap (Expr.gather ofName ofLiteral) ++
    s.order.flatMap (fun k => k.expr.gather ofName ofLiteral) ++
    s.limit.toList.flatMap (Expr.gather ofName ofLiteral) ++
    s.offset.toList.flatMap (Expr.gather ofName ofLiteral)

end Gather

/-- The **names** of a statement, from left to right: its columns, the other names of its
items, its schema and its table. -/
def Statement.names (s : Statement) : List String := s.gather (fun name => [name]) fun _ => []

/-- The **texts** of a statement, from left to right. -/
def Statement.strings (s : Statement) : List String := s.gather (fun _ => []) Literal.strings

/-! ### The names and texts are those of the tree -/

/-- The name that a token is. -/
def Token.name? : Token → Option String
  | .name s => some s
  | _ => none

/-- The text that a token is. -/
def Token.text? : Token → Option String
  | .text s => some s
  | _ => none

/-- A function of tokens that **only looks at quotes**: at names and at texts. -/
structure Token.OnlyQuoted {α : Type} (f : Token → Option α) : Prop where
  /-- Words give nothing. -/
  word (w : String) : f (.word w) = none
  /-- Numbers give nothing. -/
  number (digits : String) : f (.number digits) = none
  /-- Operators and delimiters give nothing. -/
  symbol (s : String) : f (.symbol s) = none

section Gather

variable {α : Type} {f : Token → Option α} (hf : Token.OnlyQuoted f)

include hf

/-- The name of a function or a type has nothing but words. -/
theorem filterMap_wordsOf (name : String) : (wordsOf name).filterMap f = [] := by
  simp [wordsOf, hf.word]

/-- Commas give nothing. -/
theorem filterMap_separated (tss : List (List Token)) :
    (separated tss).filterMap f = tss.flatMap (List.filterMap f) := by
  induction tss with
  | nil => rfl
  | cons ts tss ih =>
    cases tss with
    | nil => simp [separated]
    | cons us tss =>
      rw [separated] at ih
      simp [separated, List.intercalate_cons_cons, hf.symbol, ih]

/-- A constant gives what its texts give. -/
theorem Literal.filterMap_tokens (l : Literal) :
    l.tokens.filterMap f = l.strings.filterMap (f ∘ .text) := by
  have hsigned (negative : Bool) (digits : String) : (signed negative digits).filterMap f = [] := by
    cases negative <;> simp [signed, hf.number, hf.symbol]
  cases l <;>
    simp [Literal.tokens, Literal.strings, List.filterMap_cons, hf.word, hf.symbol, hsigned]

/-- An operator gives nothing. -/
theorem BinaryOp.filterMap_token (op : BinaryOp) : f op.token = none := by
  cases op <;> simp [BinaryOp.token, hf.word, hf.symbol]

omit hf

namespace Expr

mutual

/-- An **expression** gives what its columns and its texts give. -/
theorem filterMap_tokens (hf : Token.OnlyQuoted f) : ∀ e : Expr, e.tokens.filterMap f =
    e.gather (fun name => (f (.name name)).toList) fun l => l.strings.filterMap (f ∘ .text)
  | column name => by
    cases h : f (.name name) <;> simp [tokens, gather, h]
  | literal l => Literal.filterMap_tokens hf l
  | binary left op right => by
    simp [tokens, gather, filterMap_tokens hf left, filterMap_tokens hf right,
      BinaryOp.filterMap_token hf op]
  | not e => by simp [tokens, gather, hf.word, filterMap_tokens hf e]
  | call name args => by
    simp [tokens, gather, hf.symbol, filterMap_wordsOf hf, filterMap_separated hf,
      filterMap_tokenLists hf args]
  | inList e items negated => by
    cases negated <;>
      simp [tokens, gather, hf.word, hf.symbol, filterMap_tokens hf e, filterMap_separated hf,
        filterMap_tokenLists hf items]
  | isNull e negated => by cases negated <;> simp [tokens, gather, hf.word, filterMap_tokens hf e]
  | cast e type => by
    simp [tokens, gather, hf.word, hf.symbol, filterMap_wordsOf hf, filterMap_tokens hf e]
  | wildcard => by simp [tokens, gather, hf.symbol]
  | nested e => by simp [tokens, gather, hf.symbol, filterMap_tokens hf e]

/-- **Expressions** give what their columns and their texts give. -/
theorem filterMap_tokenLists (hf : Token.OnlyQuoted f) : ∀ es : List Expr,
    (tokenLists es).flatMap (List.filterMap f) =
      gatherAll (fun name => (f (.name name)).toList)
        (fun l => l.strings.filterMap (f ∘ .text)) es
  | [] => rfl
  | e :: es => by
    simp [tokenLists, gatherAll, filterMap_tokens hf e, filterMap_tokenLists hf es]

end

end Expr

include hf

/-- A selected **item** gives what its names and its texts give. -/
theorem Item.filterMap_tokens (item : Item) : item.tokens.filterMap f =
    item.gather (fun name => (f (.name name)).toList) fun l => l.strings.filterMap (f ∘ .text) := by
  cases item with
  | wildcard => simp [Item.tokens, Item.gather, hf.symbol]
  | expr e alias? =>
    cases alias? with
    | none => simp [Item.tokens, Item.gather, Expr.filterMap_tokens hf]
    | some name =>
      cases h : f (.name name) <;>
        simp [Item.tokens, Item.gather, Expr.filterMap_tokens hf, hf.word, h]

/-- A **table** gives what its names give. -/
theorem Table.filterMap_tokens (t : Table) :
    t.tokens.filterMap f = t.gather fun name => (f (.name name)).toList := by
  unfold Table.tokens Table.gather
  cases t.schema with
  | none => cases h : f (.name t.name) <;> simp [h]
  | some schema =>
    cases h : f (.name schema) <;> cases h' : f (.name t.name) <;> simp [hf.symbol, h, h']

/-- The selected items give what each gives. -/
theorem Item.filterMap_listTokens (items : List Item) : (Item.listTokens items).filterMap f =
    items.flatMap (Item.gather (fun name => (f (.name name)).toList)
      fun l => l.strings.filterMap (f ∘ .text)) := by
  unfold Item.listTokens
  split
  · next hempty => simp [List.isEmpty_iff.mp hempty, hf.symbol]
  · simp [filterMap_separated hf, List.flatMap_map, Item.filterMap_tokens hf]

/-- An order gives what each of its keys gives. -/
theorem OrderKey.filterMap_listTokens (order : List OrderKey) :
    (OrderKey.listTokens order).filterMap f = order.flatMap fun k =>
      k.expr.gather (fun name => (f (.name name)).toList)
        fun l => l.strings.filterMap (f ∘ .text) := by
  unfold OrderKey.listTokens
  split
  · next hempty => simp [List.isEmpty_iff.mp hempty]
  · simp [filterMap_separated hf, List.flatMap_map, OrderKey.tokens, Expr.filterMap_tokens hf,
      hf.word]

/-- A **statement** gives what its names and its texts give. -/
theorem Statement.filterMap_tokens (s : Statement) : s.tokens.filterMap f =
    s.gather (fun name => (f (.name name)).toList) fun l => l.strings.filterMap (f ∘ .text) := by
  simp [Statement.tokens, Statement.gather, hf.word, List.filterMap_flatMap,
    Item.filterMap_listTokens hf, OrderKey.filterMap_listTokens hf, Expr.filterMap_tokens hf,
    Table.filterMap_tokens hf]

end Gather

/-- The names among the tokens of a statement are the names of its tree. -/
theorem Statement.filterMap_name? (s : Statement) : s.tokens.filterMap Token.name? = s.names := by
  rw [Statement.filterMap_tokens ⟨fun _ => rfl, fun _ => rfl, fun _ => rfl⟩, Statement.names]
  congr
  funext l
  exact List.filterMap_eq_nil_iff.mpr fun _ _ => rfl

/-- The texts among the tokens of a statement are the texts of its tree. -/
theorem Statement.filterMap_text? (s : Statement) :
    s.tokens.filterMap Token.text? = s.strings := by
  rw [Statement.filterMap_tokens ⟨fun _ => rfl, fun _ => rfl, fun _ => rfl⟩, Statement.strings]
  congr
  funext l
  exact List.filterMap_some

/-- The text of a plain **statement** is cut into the tokens of its tree: each name is one
token and each text is one token, whatever is inside. -/
theorem Statement.lex_text {s : Statement} (h : s.isPlain) :
    lex s.text.toList = some s.tokens ∧ s.tokens.filterMap Token.name? = s.names ∧
      s.tokens.filterMap Token.text? = s.strings :=
  ⟨Statement.lex_toList_text h, s.filterMap_name?, s.filterMap_text?⟩

namespace Sample

/-- A statement whose names and texts try to leave their quotes. -/
def hostile : Statement where
  items := [.expr (.cast (.column "a\"b") "DOUBLE PRECISION") (some "--"), .wildcard]
  table := some ⟨some "s\".\"t", "/*"⟩
  filter := some (.binary (.inList (.column "\\") [.string "O'Brien'; DROP TABLE x; --"] true) .and
    (.binary (.call "strpos" [.column "'", .string "\\"]) .gt (.literal (.integer (-7)))))
  order := [⟨.column "\n", false⟩]
  limit := none
  offset := none

end Sample

/-- No name and no text of the statement leaves its quotes. -/
theorem Statement.lex_hostile : Sample.hostile.isPlain ∧
    lex Sample.hostile.text.toList = some
      [.word "SELECT", .word "CAST", .symbol "(", .name "a\"b", .word "AS", .word "DOUBLE",
        .word "PRECISION", .symbol ")", .word "AS", .name "--", .symbol ",", .symbol "*",
        .word "FROM", .name "s\".\"t", .symbol ".", .name "/*",
        .word "WHERE", .name "\\", .word "NOT", .word "IN", .symbol "(",
        .text "O'Brien'; DROP TABLE x; --", .symbol ")", .word "AND", .word "strpos", .symbol "(",
        .name "'", .symbol ",", .text "\\", .symbol ")", .symbol ">", .symbol "-", .number "7",
        .word "ORDER", .word "BY", .name "\n", .word "DESC"] ∧
    Sample.hostile.tokens.filterMap Token.name? =
      ["a\"b", "--", "s\".\"t", "/*", "\\", "'", "\n"] ∧
    Sample.hostile.tokens.filterMap Token.text? = ["O'Brien'; DROP TABLE x; --", "\\"] :=
  have hplain : Sample.hostile.isPlain := by decide
  ⟨hplain, Statement.lex_text hplain⟩

end Listing.Sql
