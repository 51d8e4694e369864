import Listing.Sql.Basic
import Listing.Text.LetterCase

/-!
# Simplifying statements

Two passes over the filter of a statement. `foldConstants` takes known truth values out of `AND`,
`OR`, `NOT` and `COALESCE` and drops a filter that is always true; this is right even where other
operands are unknown, because false absorbs in a conjunction and true in a disjunction whatever the
other operand is. `dropParentheses` removes parentheses around what needs none.
-/

namespace Listing.Sql

namespace Expr

/-! ### Known truth values -/

/-- The truth value that an expression is, perhaps in parentheses. -/
def truth? : Expr → Option Bool
  | literal (.boolean b) => some b
  | nested e => e.truth?
  | _ => none

/-- A conjunction or disjunction of folded operands; `absorbing` is the truth value that decides it
alone. -/
def foldJunction (absorbing : Bool) (op : BinaryOp) (left right : Expr) : Expr :=
  if left.truth? = some absorbing ∨ right.truth? = some absorbing then boolean absorbing
  else if left.truth?.isSome then right
  else if right.truth?.isSome then left
  else binary left op right

/-- A denial of a folded operand. -/
def foldNot (e : Expr) : Expr :=
  match e.truth? with
  | some b => boolean !b
  | none => not e

/-- Parentheses around a folded expression. -/
def foldNested (e : Expr) : Expr :=
  match e.truth? with
  | some b => boolean b
  | none => nested e

/-- A function of folded arguments. `COALESCE` is its first argument if that is known. -/
def foldCall (name : String) (args : List Expr) : Expr :=
  match args.head?.bind truth? with
  | some b => if name.equalsIgnoringCase "COALESCE" then boolean b else call name args
  | none => call name args

mutual

/-- An expression without known truth values inside logical operations. -/
def fold : Expr → Expr
  | binary left .and right => foldJunction false .and left.fold right.fold
  | binary left .or right => foldJunction true .or left.fold right.fold
  | not e => foldNot e.fold
  | nested e => foldNested e.fold
  | call name args => foldCall name (foldAll args)
  | e => e

/-- Several expressions, each folded. -/
def foldAll : List Expr → List Expr
  | [] => []
  | e :: rest => e.fold :: foldAll rest

end

/-- Conjunctions and disjunctions are folded alike. -/
theorem exists_fold_junction {op : BinaryOp} (hop : op = .and ∨ op = .or) (left right : Expr) :
    ∃ b, (binary left op right).fold = foldJunction b op left.fold right.fold := by
  rcases hop with rfl | rfl
  · exact ⟨false, by rw [fold]⟩
  · exact ⟨true, by rw [fold]⟩

/-- Other operations are not folded. -/
theorem fold_compare {op : BinaryOp} (hop : ¬ (op = .and ∨ op = .or)) (left right : Expr) :
    (binary left op right).fold = binary left op right := by
  cases op <;> simp_all [fold]

/-- A folded junction is a truth value, one of its operands or a junction of them. -/
theorem foldJunction_cases (b : Bool) (op : BinaryOp) (left right : Expr) :
    foldJunction b op left right = boolean b ∨ foldJunction b op left right = right ∨
      foldJunction b op left right = left ∨
      foldJunction b op left right = binary left op right := by
  unfold foldJunction
  split
  · exact .inl rfl
  split
  · exact .inr (.inl rfl)
  split
  · exact .inr (.inr (.inl rfl))
  · exact .inr (.inr (.inr rfl))

/-! ### Parentheses -/

/-- Whether the expression holds together without parentheses. -/
def isTight : Expr → Bool
  | column _ | literal _ | wildcard | call _ _ | cast _ _ | isNull _ _ => true
  | _ => false

/-- Whether the expression is one in parentheses. -/
def isNested : Expr → Bool
  | nested _ => true
  | _ => false

mutual

/-- An expression without parentheses around what needs none. -/
def relax : Expr → Expr
  | nested e => if e.isNested || e.isTight then e.relax else nested e.relax
  | binary left op right => binary left.relax op right.relax
  | not e => not e.relax
  | call name args => call name (relaxAll args)
  | e => e

/-- Several expressions, each relaxed. -/
def relaxAll : List Expr → List Expr
  | [] => []
  | e :: rest => e.relax :: relaxAll rest

end

/-- An expression without the parentheses around it. -/
def unwrap : Expr → Expr
  | nested e => e
  | e => e

end Expr

/-! ### Passes -/

/-- A filter without known truth values; none if it is always true. -/
def foldFilter (filter : Option Expr) : Option Expr :=
  (filter.map Expr.fold).filter fun e => e.truth? != some true

/-- A filter without parentheses that it does not need. -/
def relaxFilter (filter : Option Expr) : Option Expr := filter.map fun e => e.relax.unwrap

/-- A change of a statement that keeps the rows it selects. -/
inductive Pass where
  /-- Takes out known truth values. -/
  | foldConstants
  /-- Removes parentheses. -/
  | dropParentheses
deriving DecidableEq, Repr

namespace Pass

/-- The name of a pass. -/
def name : Pass → String
  | foldConstants => "fold_boolean_constants"
  | dropParentheses => "remove_redundant_nesting"

/-- The statement that a pass makes of another. -/
def run (p : Pass) (s : Statement) : Statement :=
  match p with
  | foldConstants => { s with filter := foldFilter s.filter }
  | dropParentheses => { s with filter := relaxFilter s.filter }

/-- The passes that every statement goes through before it is sent. -/
def standard : List Pass := [foldConstants, dropParentheses]

end Pass

/-- The statement that some passes make of another, one after the other. -/
def Statement.simplify (passes : List Pass) (s : Statement) : Statement :=
  passes.foldl (fun s p => p.run s) s

end Listing.Sql
