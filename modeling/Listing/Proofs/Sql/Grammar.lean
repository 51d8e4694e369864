import Listing.Number.Reading
import Listing.Proofs.Sql.Token

/-!
# Reading Expressions by Precedence

`parse` reads the tokens of an expression by the precedence of PostgreSQL: `OR` holds its
operands the least, then `AND`, `NOT`, `IS [NOT] NULL`, the comparisons, `[NOT] IN` and `~`;
`AND`, `OR` and `~` group from the left, and comparisons do not stand side by side.

Tokens are read from left to right with a stack of what is begun but not yet ended. In front of
an operator the operations on the stack that hold tighter are ended, and in front of a comma or
a parenthesis all are. What comes out has no parentheses. A number with a sign is one constant,
an integer without a decimal point and a floating-point number with one.

Keywords are read in either letter case. What cannot be in an expression of a statement here
is refused: a word is a keyword, the name of a function or a part of the name of a type.

## Main results

* `run_got_of_reduce` — expressions that are ended alike in front of some tokens are read alike.
-/

namespace Listing.Sql

/-! ### Kinds of tokens -/

/-- What a token is in an expression. -/
inductive Token.Kind where
  /-- A column. -/
  | column (name : String)
  /-- A constant other than a number. -/
  | constant (l : Literal)
  /-- A number without a sign. -/
  | number (digits : String)
  /-- Another word: the name of a function, or a part of the name of a type. -/
  | function (name : String)
  /-- An operator between two operands. -/
  | operator (op : BinaryOp)
  /-- The keyword `NOT`. -/
  | not
  /-- The keyword `IS`. -/
  | is
  /-- The keyword `IN`. -/
  | isIn
  /-- The keyword `AS`. -/
  | as
  /-- The keyword `CAST`. -/
  | cast
  /-- An opening parenthesis. -/
  | opening
  /-- A closing parenthesis. -/
  | closing
  /-- A comma. -/
  | comma
  /-- A minus. -/
  | minus
  /-- An asterisk. -/
  | star
  /-- A keyword that begins a clause of a statement. -/
  | clause
  /-- Something else. -/
  | unknown
deriving DecidableEq, Repr

/-- The keywords that begin the clauses of a statement. -/
def clauseKeywords : List String := ["SELECT", "FROM", "WHERE", "ORDER", "LIMIT", "OFFSET"]

/-- What a word is in an expression; the letter case is of no account for keywords. -/
def Token.kindOfWord (w : String) : Token.Kind :=
  let keyword := String.ofList (w.toList.map Char.toUpper)
  if keyword = "AND" then .operator .and
  else if keyword = "OR" then .operator .or
  else if keyword = "NOT" then .not
  else if keyword = "IS" then .is
  else if keyword = "IN" then .isIn
  else if keyword = "AS" then .as
  else if keyword = "CAST" then .cast
  else if keyword = "NULL" then .constant .null
  else if keyword = "TRUE" then .constant (.boolean true)
  else if keyword = "FALSE" then .constant (.boolean false)
  else if keyword ∈ clauseKeywords then .clause
  else .function w

/-- What an operator or a delimiter is in an expression. -/
def Token.kindOfSymbol (s : String) : Token.Kind :=
  if s = "=" then .operator .eq
  else if s = "<" then .operator .lt
  else if s = "<=" then .operator .le
  else if s = ">" then .operator .gt
  else if s = ">=" then .operator .ge
  else if s = "~" then .operator .fits
  else if s = "(" then .opening
  else if s = ")" then .closing
  else if s = "," then .comma
  else if s = "-" then .minus
  else if s = "*" then .star
  else .unknown

/-- What a token is in an expression. -/
def Token.kind : Token → Token.Kind
  | word w => kindOfWord w
  | name s => .column s
  | text s => .constant (.string s)
  | number digits => .number digits
  | symbol s => kindOfSymbol s

/-- What holds of both answers of a choice holds of the choice. -/
theorem Token.kind_ite {P : Token.Kind → Prop} {c : Prop} [Decidable c] {k k' : Token.Kind}
    (h : P k) (h' : P k') : P (if c then k else k') := by
  split
  · exact h
  · exact h'

/-- What holds of the kinds of keywords, and of a word that is none, holds of the kind of **each
word**. -/
theorem Token.kindOfWord_induct {P : Token.Kind → Prop} (w : String) (hop : ∀ op, P (.operator op))
    (hkeyword : ∀ k ∈ [Token.Kind.not, .is, .isIn, .as, .cast, .clause], P k)
    (hconstant : ∀ l, P (.constant l)) (hword : P (.function w)) : P (kindOfWord w) := by
  simp only [List.forall_mem_cons] at hkeyword
  obtain ⟨hnot, his, hin, has, hcast, hclause, -⟩ := hkeyword
  refine kind_ite (hop .and) (kind_ite (hop .or) ?_)
  refine kind_ite hnot (kind_ite his (kind_ite hin (kind_ite has (kind_ite hcast ?_))))
  refine kind_ite (hconstant .null) (kind_ite (hconstant _) (kind_ite (hconstant _) ?_))
  exact kind_ite hclause hword

/-- A word that is no keyword stands for itself. -/
theorem Token.kindOfWord_eq_function {v w : String} : kindOfWord v = .function w → v = w :=
  kindOfWord_induct (P := (· = .function w → v = w)) v (by simp) (by simp) (by simp) (by simp)

/-- A sign is no name of a function. -/
theorem Token.kindOfSymbol_ne_function (s w : String) : kindOfSymbol s ≠ .function w := by
  unfold kindOfSymbol
  iterate 11 refine kind_ite (P := (· ≠ .function w)) Token.Kind.noConfusion ?_
  exact Token.Kind.noConfusion

/-- A token of the kind of a function is a word. -/
theorem Token.eq_word_of_kind {t : Token} {w : String} (h : t.kind = .function w) :
    t = .word w := by
  cases t with
  | word v =>
    rw [kindOfWord_eq_function h]
  | symbol s =>
    exact absurd h (kindOfSymbol_ne_function s w)
  | _ => cases h

/-- A word is no parenthesis. -/
theorem Token.kindOfWord_ne (w : String) : kindOfWord w ≠ .opening ∧ kindOfWord w ≠ .closing :=
  kindOfWord_induct (P := fun k => k ≠ .opening ∧ k ≠ .closing) w (by simp) (by simp) (by simp)
    (by simp)

/-! ### Precedence -/

/-- How tightly an operator holds its operands. -/
def BinaryOp.level : BinaryOp → Nat
  | or => 1
  | and => 2
  | fits => 7
  | _ => 5

/-- Whether several of an operator side by side group from the left. -/
def BinaryOp.isChained : BinaryOp → Bool
  | or | and | fits => true
  | _ => false

/-- How tightly `NOT` holds its operand. -/
def denialLevel : Nat := 3

/-- How tightly a token behind an expression holds it. -/
def Token.Kind.level : Token.Kind → Nat
  | operator op => op.level
  | is => 4
  | not | isIn => 6
  | _ => 0

/-! ### The stack -/

/-- What a list in parentheses belongs to. -/
inductive Listed where
  /-- A function. -/
  | call (name : String)
  /-- A test whether an expression is, or is not, in the list. -/
  | inList (e : Expr) (negated : Bool)

/-- What ends with a list. -/
def Listed.close : Listed → List Expr → Expr
  | call name, args => .call name args
  | inList e negated, items => .inList e items negated

/-- What is begun but not yet ended. -/
inductive Frame where
  /-- An operation that waits for its right operand. -/
  | operand (left : Expr) (op : BinaryOp)
  /-- A denial that waits for its operand. -/
  | denial
  /-- An open parenthesis. -/
  | group
  /-- An open list, with the items that are read. -/
  | list (of : Listed) (items : List Expr)
  /-- An open cast. -/
  | cast

/-- The operations on the stack that end in front of a token of some level, with the last
operand; no answer where comparisons stand side by side. -/
def reduce (level : Nat) : List Frame → Expr → Option (List Frame × Expr)
  | .operand left op :: stack, e =>
    if level < op.level ∨ level = op.level ∧ op.isChained then
      reduce level stack (.binary left op e)
    else if level = op.level then none
    else some (.operand left op :: stack, e)
  | .denial :: stack, e =>
    if level < denialLevel then reduce level stack (.not e) else some (.denial :: stack, e)
  | stack, e => some (stack, e)

/-! ### The reader -/

/-- Where the reader is. -/
inductive State where
  /-- In front of an operand. -/
  | want (stack : List Frame)
  /-- Behind an operand. -/
  | got (stack : List Frame) (e : Expr)
  /-- Behind the sign of a number. -/
  | negative (stack : List Frame)
  /-- Behind the name of a function. -/
  | named (stack : List Frame) (name : String)
  /-- Behind the asterisk that is the argument of a function. -/
  | starred (stack : List Frame) (name : String)
  /-- Behind the keyword `CAST`. -/
  | casting (stack : List Frame)
  /-- Behind `AS` and some words of a type. -/
  | typing (stack : List Frame) (e : Expr) (words : List String)
  /-- Behind `IS` or `IS NOT`. -/
  | testing (stack : List Frame) (e : Expr) (negated : Bool)
  /-- Behind `NOT` behind an operand. -/
  | denying (stack : List Frame) (e : Expr)
  /-- Behind `IN` or `NOT IN`. -/
  | listing (stack : List Frame) (e : Expr) (negated : Bool)

/-- A number with a sign: an integer, or a floating-point number if there is a point. -/
def numeral? (negative : Bool) (digits : String) : Option Literal :=
  if '.' ∈ digits.toList then
    (Number.written? digits.toList).map fun w => .float (w.nearest negative)
  else
    (Number.decimal? digits.toList).map fun n : Nat =>
      .integer (if negative then -(n : Int) else n)

namespace State

/-- In front of an operand. -/
def wanting (stack : List Frame) : Token.Kind → Option State
  | .column name => some (got stack (.column name))
  | .constant l => some (got stack (.literal l))
  | .number digits => (numeral? false digits).map fun l => got stack (.literal l)
  | .minus => some (negative stack)
  | .not => some (want (.denial :: stack))
  | .opening => some (want (.group :: stack))
  | .function name => some (named stack name)
  | .cast => some (casting stack)
  | .star =>
    match stack with
    | .list (.call name) [] :: rest => some (starred rest name)
    | _ => none
  | .closing =>
    match stack with
    | .list (.call name) [] :: rest => some (got rest (.call name []))
    | _ => none
  | _ => none

/-- Behind an operand, in front of which all has ended that ends in front of the token. -/
def behind (stack : List Frame) (e : Expr) : Token.Kind → Option State
  | .operator op => some (want (.operand e op :: stack))
  | .is => some (testing stack e false)
  | .not => some (denying stack e)
  | .isIn => some (listing stack e false)
  | .as =>
    match stack with
    | .cast :: rest => some (typing rest e [])
    | _ => none
  | .comma =>
    match stack with
    | .list of items :: rest => some (want (.list of (items ++ [e]) :: rest))
    | _ => none
  | .closing =>
    match stack with
    | .group :: rest => some (got rest e)
    | .list of items :: rest => some (got rest (of.close (items ++ [e])))
    | _ => none
  | _ => none

/-- Where the reader is behind one more token. -/
def step (s : State) (t : Token) : Option State :=
  match s with
  | want stack => wanting stack t.kind
  | got stack e =>
    (reduce t.kind.level stack e).bind fun (stack, e) => behind stack e t.kind
  | negative stack =>
    match t with
    | .number digits => (numeral? true digits).map fun l => got stack (.literal l)
    | _ => none
  | named stack name =>
    if t.kind = .opening then some (want (.list (.call name) [] :: stack)) else none
  | starred stack name =>
    if t.kind = .closing then some (got stack (.call name [.wildcard])) else none
  | casting stack => if t.kind = .opening then some (want (.cast :: stack)) else none
  | typing stack e words =>
    match t.kind with
    | .function w => some (typing stack e (words ++ [w]))
    | .closing =>
      if words = [] then none else some (got stack (.cast e (" ".intercalate words)))
    | _ => none
  | testing stack e negated =>
    if t.kind = .constant .null then some (got stack (.isNull e negated))
    else if t.kind = .not ∧ negated = false then some (testing stack e true)
    else none
  | denying stack e => if t.kind = .isIn then some (listing stack e true) else none
  | listing stack e negated =>
    if t.kind = .opening then some (want (.list (.inList e negated) [] :: stack)) else none

/-- The expression at the end of the tokens, if nothing is left open. -/
def finish : State → Option Expr
  | got stack e =>
    match reduce 0 stack e with
    | some ([], e) => some e
    | _ => none
  | _ => none

/-- The expression that the reader finds in the tokens that are left. -/
def run (s : State) : List Token → Option Expr
  | [] => s.finish
  | t :: ts => (s.step t).bind fun s => s.run ts

end State

/-- The expression that some tokens are. -/
def parse (ts : List Token) : Option Expr := (State.want []).run ts

/-- How tightly the first of some tokens holds an expression in front of it. -/
def levelOf : List Token → Nat
  | [] => 0
  | t :: _ => t.kind.level

/-- Expressions that are **ended alike** in front of some tokens are read alike. -/
theorem run_got_of_reduce {stack stack' : List Frame} {e e' : Expr} {ts : List Token}
    (h : reduce (levelOf ts) stack e = reduce (levelOf ts) stack' e') :
    (State.got stack e).run ts = (State.got stack' e').run ts := by
  cases ts with
  | nil =>
    rw [levelOf] at h
    simp only [State.run, State.finish, h]
  | cons t ts =>
    rw [levelOf] at h
    simp only [State.run, State.step, h]

end Listing.Sql
