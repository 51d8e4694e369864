import Listing.Proofs.Number.Positional
import Listing.Proofs.Sql.Lexing
import Listing.Text.Blank

/-!
# Statements Are Written Token by Token

`Statement.tokens` is the sequence of tokens that a statement stands for, read off its tree.
A statement is **plain** if the names of its functions and of its types are words between
blanks and all its floating-point numbers are finite; nothing is asked of its columns, its
tables and its texts. The text of a plain statement is cut into exactly its tokens.

The proof goes through the tree with `Reads EndsExpr`: whatever stands behind an expression,
a keyword, a comma or a parenthesis, ends the last token of the expression.

## Main results

* `Expr.reads_text` — an expression is written as its tokens.
* `Statement.reads_parts` — each clause of a statement is, and begins with a word.
* `Statement.lex_toList_text` — a plain statement is written as its tokens.
-/

namespace Listing.Sql

open Number

/-! ### Numbers -/

/-- A number with a sign: a minus is a token of its own. -/
def signed (negative : Bool) (digits : String) : List Token :=
  if negative then [.symbol "-", .number digits] else [.number digits]

/-- A finite floating-point number without its sign, as it is written. -/
def magnitudeText (x : Binary64) : String :=
  String.ofList (if x.isZero then ['0'] else x.shortest.positional)

/-! ### Tokens -/

/-- Whether a name is made of words with one blank between them. -/
def isPlainName (name : String) : Bool := (List.splitOn ' ' name.toList).all isPlainWord

/-- The words of the name of a function or a type. -/
def wordsOf (name : String) : List Token :=
  (List.splitOn ' ' name.toList).map fun w => .word (String.ofList w)

/-- The tokens of a constant. -/
def Literal.tokens : Literal → List Token
  | null => [.word "NULL"]
  | boolean b => [.word (if b then "TRUE" else "FALSE")]
  | integer n => signed (n < 0) (toString n.natAbs)
  | float x => signed x.isNegative (magnitudeText x)
  | string s => [.text s]
  | timestamp i =>
    [.word "CAST", .symbol "(", .text i.text, .word "AS", .word "TIMESTAMPTZ", .symbol ")"]

/-- The token of an operator. -/
def BinaryOp.token : BinaryOp → Token
  | and => .word "AND"
  | or => .word "OR"
  | op => .symbol op.text

/-- Lists of tokens with a comma between them. -/
def separated (tss : List (List Token)) : List Token := [.symbol ","].intercalate tss

namespace Expr

mutual

/-- The **tokens** of an expression. -/
def tokens : Expr → List Token
  | column name => [.name name]
  | literal l => l.tokens
  | binary left op right => left.tokens ++ op.token :: right.tokens
  | not e => .word "NOT" :: e.tokens
  | call name args => wordsOf name ++ .symbol "(" :: separated (tokenLists args) ++ [.symbol ")"]
  | inList e items negated =>
    e.tokens ++ (if negated then [.word "NOT", .word "IN"] else [.word "IN"]) ++
      .symbol "(" :: separated (tokenLists items) ++ [.symbol ")"]
  | isNull e negated =>
    e.tokens ++
      (if negated then [.word "IS", .word "NOT", .word "NULL"] else [.word "IS", .word "NULL"])
  | cast e type =>
    .word "CAST" :: .symbol "(" :: e.tokens ++ .word "AS" :: wordsOf type ++ [.symbol ")"]
  | wildcard => [.symbol "*"]
  | nested e => .symbol "(" :: e.tokens ++ [.symbol ")"]

/-- The tokens of each of some expressions. -/
def tokenLists : List Expr → List (List Token)
  | [] => []
  | e :: rest => e.tokens :: tokenLists rest

end

end Expr

/-- The tokens of a selected item. -/
def Item.tokens : Item → List Token
  | wildcard => [.symbol "*"]
  | expr e none => e.tokens
  | expr e (some name) => e.tokens ++ [.word "AS", .name name]

/-- The tokens of a table. -/
def Table.tokens (t : Table) : List Token :=
  match t.schema with
  | some schema => [.name schema, .symbol ".", .name t.name]
  | none => [.name t.name]

/-- The tokens of a key of an order. -/
def OrderKey.tokens (k : OrderKey) : List Token :=
  k.expr.tokens ++ [.word (if k.ascending then "ASC" else "DESC")]

/-- The tokens of the selected items. -/
def Item.listTokens (items : List Item) : List Token :=
  if items.isEmpty then [.symbol "*"] else separated (items.map (·.tokens))

/-- The tokens of an order, if there is one. -/
def OrderKey.listTokens (order : List OrderKey) : List Token :=
  if order.isEmpty then [] else .word "ORDER" :: .word "BY" :: separated (order.map (·.tokens))

/-- The **tokens** of a statement. -/
def Statement.tokens (s : Statement) : List Token :=
  .word "SELECT" :: Item.listTokens s.items ++
    s.table.toList.flatMap (fun t => .word "FROM" :: t.tokens) ++
    s.filter.toList.flatMap (fun e => .word "WHERE" :: e.tokens) ++
    OrderKey.listTokens s.order ++
    s.limit.toList.flatMap (fun e => .word "LIMIT" :: e.tokens) ++
    s.offset.toList.flatMap (fun e => .word "OFFSET" :: e.tokens)

/-! ### Plain statements -/

namespace Expr

mutual

/-- Whether an expression is **plain**. -/
def isPlain : Expr → Bool
  | literal (.float x) => x.isFinite
  | literal _ | column _ | wildcard => true
  | binary left _ right => left.isPlain && right.isPlain
  | not e | isNull e _ | nested e => e.isPlain
  | call name args => isPlainName name && areAllPlain args
  | inList e items _ => e.isPlain && areAllPlain items
  | cast e type => e.isPlain && isPlainName type

/-- Whether some expressions are plain. -/
def areAllPlain : List Expr → Bool
  | [] => true
  | e :: rest => e.isPlain && areAllPlain rest

end

end Expr

/-- Whether a selected item is plain. -/
def Item.isPlain : Item → Bool
  | wildcard => true
  | expr e _ => e.isPlain

/-- Whether a statement is **plain**. -/
def Statement.isPlain (s : Statement) : Bool :=
  s.items.all Item.isPlain && s.filter.all Expr.isPlain && s.order.all (·.expr.isPlain) &&
    s.limit.all Expr.isPlain && s.offset.all Expr.isPlain

/-! ### Numbers are written as tokens -/

/-- The digits of a natural number are a number. -/
theorem isNumber_toDigits (n : Nat) : IsNumber (Nat.toDigits 10 n) :=
  ⟨Nat.toDigits 10 n, [], by simp, Nat.toDigits_ne_nil,
    fun _ hc => Nat.isDigit_of_mem_toDigits (by decide) (by decide) hc, .none⟩

/-- A finite floating-point number without its sign is a number. -/
theorem isNumber_magnitudeText (x : Binary64) : IsNumber (magnitudeText x).toList := by
  rw [magnitudeText, String.toList_ofList]
  by_cases hzero : x.isZero
  · rw [if_pos hzero]
    exact isNumber_toDigits 0
  rw [if_neg hzero]
  by_cases hlast : 0 ≤ x.shortest.last
  · have hne := Binary64.digits_shortest_ne_nil hzero
    refine ⟨x.shortest.positional, [], (List.append_nil _).symm, ?_,
      Binary64.isDigit_of_mem_positional hzero hlast, .none⟩
    rw [Decimal.positional_of_last hne hlast]
    exact List.append_ne_nil_of_left_ne_nil hne _
  · obtain ⟨whole, fraction, htext, hne, hwhole, hfraction, -, -⟩ :=
      Decimal.exists_positional (fun _ hc => Binary64.isDigit_of_mem_shortest hc)
        (Int.lt_of_not_ge hlast)
    exact ⟨whole, '.' :: fraction, htext, hne, hwhole, .places hfraction⟩

/-- A number with a sign is written as its tokens. -/
theorem reads_signed {negative : Bool} {digits : String} (h : IsNumber digits.toList) :
    Reads EndsExpr ((if negative then "-" else "") ++ digits).toList (signed negative digits) := by
  have hdigits := reads_number h
  rw [String.ofList_toList] at hdigits
  cases negative with
  | false => simpa [signed] using hdigits
  | true =>
    have hminus : Reads EndsOperator "-".toList [.symbol "-"] :=
      reads_operator _ (by decide) (by decide) (by decide)
    simp only [signed, if_true, String.toList_append]
    refine hminus.append hdigits fun rest hrest => ?_
    obtain ⟨whole, fraction, heq, hne, hwhole, -⟩ := h
    obtain ⟨c, w, rfl⟩ := List.exists_cons_of_ne_nil hne
    rw [heq]
    intro d hd
    cases hd
    exact isOperatorPart_of_isDigit (hwhole c List.mem_cons_self)

/-- An integer is its sign and its digits. -/
theorem toString_eq_sign (n : Int) :
    toString n = (if decide (n < 0) then "-" else "") ++ toString n.natAbs := by
  rw [Int.toString_eq_repr, Int.repr_eq_if, show toString n.natAbs = n.natAbs.repr from rfl]
  by_cases hn : 0 ≤ n
  · have habs : n.natAbs = n.toNat := by omega
    simp [hn, habs, show ¬ n < 0 by omega]
  · have habs : n.natAbs = (-n).toNat := by omega
    simp [hn, habs, show n < 0 by omega]

/-- A finite number is its sign and its digits. -/
theorem plainText_eq_sign {x : Binary64} (hx : x.isFinite) :
    x.plainText = (if x.isNegative then "-" else "") ++ magnitudeText x := by
  have hnan : x.isNaN = false := by simp [Binary64.isNaN, hx]
  simp only [Binary64.plainText, magnitudeText, hnan, hx, Bool.false_eq_true, if_false, if_true]
  rw [← String.toList_inj]
  cases x.isNegative <;> simp

/-! ### Expressions are written as their tokens -/

/-- The name of a function or a type is read as its words. -/
theorem reads_wordsOf (name : String) (h : isPlainName name) :
    Reads EndsWord name.toList (wordsOf name) := by
  rw [isPlainName, List.all_eq_true] at h
  have hwords := reads_words h
  rwa [show " ".toList = [' '] from rfl, List.intercalate_splitOn] at hwords

/-- Keywords and a blank are read in front of anything. -/
theorem reads_keywords (words : String) (h : isPlainName words) :
    Reads Anything (words.toList ++ [' ']) (wordsOf words) := by
  have hwords := (reads_wordsOf words h).append reads_space fun rest _ c hc => by cases hc; decide
  rwa [List.append_nil] at hwords

/-- An operator and a blank are read in front of anything. -/
theorem reads_op (op : BinaryOp) : Reads Anything (op.text.toList ++ [' ']) [op.token] := by
  have hsign {run : List Char} (hne : run ≠ []) (hparts : run.all Token.isOperatorPart)
      (hrun : Token.isOperator run) : Reads Anything (run ++ [' ']) [.symbol (String.ofList run)] :=
    (reads_operator run hne hparts hrun).append reads_space fun rest _ c hc => by cases hc; decide
  cases op with
  | and => exact reads_keywords "AND" (by decide)
  | or => exact reads_keywords "OR" (by decide)
  | _ => exact hsign (by decide) (by decide) (by decide)

/-- A blank and an operator end the left operand. -/
theorem endsExpr_op (op : BinaryOp) (rest : List Char) :
    EndsExpr (' ' :: (op.text.toList ++ rest)) := by
  cases op <;> exact .space _ (by decide) (by decide)

/-- What is between parentheses is read in front of anything. -/
theorem Reads.parenthesized {cs : List Char} {ts : List Token} (h : Reads EndsExpr cs ts) :
    Reads Anything ('(' :: cs ++ [')']) (.symbol "(" :: ts ++ [.symbol ")"]) :=
  ((reads_delimiter (.inl rfl)).before h).append (reads_delimiter (.inr (.inl rfl)))
    fun rest _ => .parenthesis rest

/-- A function or a cast is its name and what is between parentheses. -/
theorem reads_applied (name : String) (hname : isPlainName name) {cs : List Char}
    {ts : List Token} (h : Reads EndsExpr cs ts) :
    Reads Anything (name.toList ++ ('(' :: cs ++ [')']))
      (wordsOf name ++ (.symbol "(" :: ts ++ [.symbol ")"])) :=
  (reads_wordsOf name hname).append h.parenthesized fun rest _ c hc => by cases hc; decide

theorem wordsOf_cast : wordsOf "CAST" = [.word "CAST"] := rfl

/-- An expression `AS` a type. -/
theorem reads_as {cs ds : List Char} {ts us : List Token} (h : Reads EndsExpr cs ts)
    (h' : Reads EndsExpr ds us) :
    Reads EndsExpr (cs ++ (" AS ".toList ++ ds)) (ts ++ (.word "AS" :: us)) :=
  h.append ((reads_space.before (reads_keywords "AS" (by decide))).before h')
    fun rest _ => endsExpr_word (by decide) _

/-- A constant is written as its tokens. -/
theorem Literal.reads_text {l : Literal} (h : (Expr.literal l).isPlain) :
    Reads EndsExpr l.text.toList l.tokens := by
  cases l with
  | null => exact (reads_word "NULL".toList (by decide)).mono fun _ => EndsExpr.endsWord
  | boolean b =>
    cases b with
    | false => exact (reads_word "FALSE".toList (by decide)).mono fun _ => EndsExpr.endsWord
    | true => exact (reads_word "TRUE".toList (by decide)).mono fun _ => EndsExpr.endsWord
  | integer n =>
    rw [Literal.text, Literal.tokens, toString_eq_sign]
    exact reads_signed (by simpa using isNumber_toDigits n.natAbs)
  | float x =>
    rw [Literal.text, Literal.tokens, plainText_eq_sign h]
    exact reads_signed (isNumber_magnitudeText x)
  | string s => exact reads_quoteText s
  | timestamp i =>
    have htype : Reads EndsExpr "TIMESTAMPTZ".toList [.word "TIMESTAMPTZ"] :=
      (reads_word "TIMESTAMPTZ".toList (by decide)).mono fun _ => EndsExpr.endsWord
    have hcast := reads_applied "CAST" (by decide) (reads_as (reads_quoteText i.text) htype)
    simpa [Literal.text, Literal.tokens, wordsOf_cast] using hcast.mono fun _ _ => trivial

namespace Expr

/-- The texts of some expressions are the texts of each. -/
theorem texts_eq (es : List Expr) : texts es = es.map text := by
  induction es with
  | nil => rfl
  | cons e es ih => rw [texts, ih, List.map_cons]

/-- The tokens of some expressions are the tokens of each. -/
theorem tokenLists_eq (es : List Expr) : tokenLists es = es.map tokens := by
  induction es with
  | nil => rfl
  | cons e es ih => rw [tokenLists, ih, List.map_cons]

mutual

/-- An **expression** is written as its tokens. -/
theorem reads_text : ∀ e : Expr, e.isPlain → Reads EndsExpr e.text.toList e.tokens
  | column name, _ => by
    rw [text, tokens]
    refine (reads_quoteName name).mono fun rest hrest => ?_
    cases hrest <;> simp
  | literal l, h => by
    rw [text, tokens]
    exact Literal.reads_text h
  | binary left op right, h => by
    rw [isPlain, Bool.and_eq_true] at h
    have hright := (reads_space.before (reads_op op)).before (reads_text right h.2)
    have hwhole := (reads_text left h.1).append hright fun rest _ => by
      simpa using endsExpr_op op _
    simpa [text, tokens] using hwhole
  | not e, h => by
    have hwhole := (reads_keywords "NOT" (by decide)).before (reads_text e h)
    simpa [text, tokens, show wordsOf "NOT" = [.word "NOT"] from rfl] using hwhole
  | call name args, h => by
    rw [isPlain, Bool.and_eq_true] at h
    have hargs := reads_separated (reads_all args h.2)
    have hwhole := reads_applied name h.1 hargs
    simpa [text, tokens, texts_eq, tokenLists_eq, separated] using hwhole.mono fun _ _ => trivial
  | inList e items negated, h => by
    rw [isPlain, Bool.and_eq_true] at h
    have hitems := (reads_separated (reads_all items h.2)).parenthesized
    have hin : Reads Anything (if negated then " NOT IN " else " IN ").toList
        (if negated then [.word "NOT", .word "IN"] else [.word "IN"]) := by
      cases negated with
      | false => exact reads_space.before (reads_keywords "IN" (by decide))
      | true => exact reads_space.before (reads_keywords "NOT IN" (by decide))
    have hwhole := (reads_text e h.1).append (hin.before hitems) fun rest _ => by
      cases negated <;> exact endsExpr_word (by decide) _
    cases negated <;>
      simpa [text, tokens, texts_eq, tokenLists_eq, separated] using hwhole.mono fun _ _ => trivial
  | isNull e negated, h => by
    have hnull : Reads EndsWord (if negated then " IS NOT NULL" else " IS NULL").toList
        (if negated then [.word "IS", .word "NOT", .word "NULL"]
          else [.word "IS", .word "NULL"]) := by
      cases negated with
      | false => exact reads_space.before (reads_wordsOf "IS NULL" (by decide))
      | true => exact reads_space.before (reads_wordsOf "IS NOT NULL" (by decide))
    have hwhole := (reads_text e h).append (hnull.mono fun _ => EndsExpr.endsWord) fun rest _ => by
      cases negated <;> exact endsExpr_word (by decide) _
    simpa [text, tokens] using hwhole
  | cast e type, h => by
    rw [isPlain, Bool.and_eq_true] at h
    have htype := (reads_wordsOf type h.2).mono fun _ => EndsExpr.endsWord
    have hwhole := reads_applied "CAST" (by decide) (reads_as (reads_text e h.1) htype)
    simpa [text, tokens, wordsOf_cast] using hwhole.mono fun _ _ => trivial
  | wildcard, _ =>
    (reads_operator ['*'] (by decide) (by decide) (by decide)).mono
      fun _ => EndsExpr.endsOperator
  | nested e, h => by
    have hwhole := (reads_text e h).parenthesized
    simpa [text, tokens] using hwhole.mono fun _ _ => trivial

/-- Each of some **expressions** is written as its tokens. -/
theorem reads_all : ∀ es : List Expr, areAllPlain es →
    ∀ e ∈ es, Reads EndsExpr e.text.toList e.tokens
  | [], _ => by simp
  | e :: es, h => by
    rw [areAllPlain, Bool.and_eq_true] at h
    exact List.forall_mem_cons.mpr ⟨reads_text e h.1, reads_all es h.2⟩

end

end Expr

/-! ### Statements are written as their tokens -/

/-- A selected **item** is written as its tokens. -/
theorem Item.reads_text {item : Item} (h : item.isPlain) :
    Reads EndsExpr item.text.toList item.tokens := by
  cases item with
  | wildcard => exact Expr.reads_text .wildcard rfl
  | expr e alias? =>
    have he := Expr.reads_text e h
    cases alias? with
    | none => exact he
    | some name =>
      have hname : Reads EndsExpr (quoteName name).toList [.name name] :=
        Expr.reads_text (.column name) rfl
      simpa [Item.text, Item.tokens] using reads_as he hname

/-- A **table** is written as its tokens. -/
theorem Table.reads_text (t : Table) : Reads EndsExpr t.text.toList t.tokens := by
  have hname : Reads EndsExpr (quoteName t.name).toList [.name t.name] :=
    Expr.reads_text (.column t.name) rfl
  unfold Table.text Table.tokens
  cases t.schema with
  | none => exact hname
  | some schema =>
    have hdot : Reads (fun rest => rest.head? = some '"') ['.'] [.symbol "."] := by
      intro rest hrest
      refine lex_token rfl ?_
      obtain ⟨w, rfl⟩ := List.head?_eq_some_iff.mp hrest
      rfl
    have hwhole := (reads_quoteName schema).append
      (hdot.append hname fun rest _ => by simp [quoteName, enclose]) fun rest _ => by simp
    simpa using hwhole

/-- A key of an **order** is written as its tokens. -/
theorem OrderKey.reads_text {k : OrderKey} (h : k.expr.isPlain) :
    Reads EndsExpr k.text.toList k.tokens := by
  have hdirection : Reads EndsWord (if k.ascending then " ASC" else " DESC").toList
      [.word (if k.ascending then "ASC" else "DESC")] := by
    cases k.ascending with
    | false => exact reads_space.before (reads_wordsOf "DESC" (by decide))
    | true => exact reads_space.before (reads_wordsOf "ASC" (by decide))
  have hwhole := (Expr.reads_text k.expr h).append (hdirection.mono fun _ => EndsExpr.endsWord)
    fun rest _ => by cases k.ascending <;> exact endsExpr_word (by decide) _
  simpa [OrderKey.text, OrderKey.tokens] using hwhole

namespace Statement

/-- The clauses of a statement, each with its tokens. -/
def parts (s : Statement) : List (String × List Token) :=
  [("SELECT " ++ (if s.items.isEmpty then "*" else ", ".intercalate (s.items.map (·.text))),
    .word "SELECT" :: Item.listTokens s.items)] ++
    (s.table.map fun t => ("FROM " ++ t.text, .word "FROM" :: t.tokens)).toList ++
    (s.filter.map fun e => ("WHERE " ++ e.text, .word "WHERE" :: e.tokens)).toList ++
    (if s.order.isEmpty then []
      else [("ORDER BY " ++ ", ".intercalate (s.order.map (·.text)),
        OrderKey.listTokens s.order)]) ++
    (s.limit.map fun e => ("LIMIT " ++ e.text, .word "LIMIT" :: e.tokens)).toList ++
    (s.offset.map fun e => ("OFFSET " ++ e.text, .word "OFFSET" :: e.tokens)).toList

/-- The clauses are written in this order. -/
theorem clauses_eq (s : Statement) : s.clauses = s.parts.map Prod.fst := by
  simp only [clauses, parts, List.map_append, Option.toList_map, List.map_map,
    apply_ite (List.map _), List.map_cons, List.map_nil]
  rfl

/-- The tokens stand in this order. -/
theorem tokens_eq (s : Statement) : s.tokens = s.parts.flatMap Prod.snd := by
  simp +contextual [tokens, parts, Option.toList_map, List.flatMap_map,
    apply_ite (List.flatMap _), OrderKey.listTokens]

/-- A **clause** is its keywords and what is behind them. -/
theorem reads_clause (keywords : String) {text : String} {ts : List Token}
    (hkeywords : isPlainName keywords)
    (hstart : keywords.toList.head?.any Token.startsWord) (h : Reads EndsExpr text.toList ts) :
    Reads EndsExpr (keywords ++ " " ++ text).toList (wordsOf keywords ++ ts) ∧
      (keywords ++ " " ++ text).toList.head?.any Token.startsWord := by
  constructor
  · simpa using (reads_keywords keywords hkeywords).before h
  · obtain ⟨c, hc, hword⟩ := (Option.any_eq_true _ _).mp hstart
    obtain ⟨w, hw⟩ := List.head?_eq_some_iff.mp hc
    simpa [hw] using hword

/-- Each clause is written as its tokens and begins with a word. -/
theorem reads_parts {s : Statement} (h : s.isPlain) : ∀ p ∈ s.parts,
    Reads EndsExpr p.1.toList p.2 ∧ p.1.toList.head?.any Token.startsWord := by
  simp only [isPlain, Bool.and_eq_true, List.all_eq_true, Option.all_eq_true] at h
  obtain ⟨⟨⟨⟨hitems, hfilter⟩, horder⟩, hlimit⟩, hoffset⟩ := h
  intro p hp
  simp only [parts, List.mem_append, List.mem_singleton, Option.mem_toList,
    Option.map_eq_some_iff] at hp
  rcases hp with ((((rfl | ⟨t, ht, rfl⟩) | ⟨e, he, rfl⟩) | hp) | ⟨e, he, rfl⟩) | ⟨e, he, rfl⟩
  · refine reads_clause "SELECT" (by decide) (by decide) ?_
    cases s.items.isEmpty with
    | true => exact Expr.reads_text .wildcard rfl
    | false => exact reads_separated fun item hitem => Item.reads_text (hitems item hitem)
  · exact reads_clause "FROM" (by decide) (by decide) (Table.reads_text t)
  · exact reads_clause "WHERE" (by decide) (by decide) (Expr.reads_text e (hfilter e he))
  · split at hp
    · cases hp
    next hsome =>
      rw [List.mem_singleton.mp hp, OrderKey.listTokens, if_neg hsome]
      exact reads_clause "ORDER BY" (by decide) (by decide)
        (reads_separated fun k hk => OrderKey.reads_text (horder k hk))
  · exact reads_clause "LIMIT" (by decide) (by decide) (Expr.reads_text e (hlimit e he))
  · exact reads_clause "OFFSET" (by decide) (by decide) (Expr.reads_text e (hoffset e he))

/-- A **statement** is written as its tokens. -/
theorem lex_toList_text {s : Statement} (h : s.isPlain) : lex s.text.toList = some s.tokens := by
  rw [text, clauses_eq, tokens_eq]
  exact (reads_spaced (reads_parts h)).lex_eq .nil

end Statement

end Listing.Sql
