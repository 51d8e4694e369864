import Listing.Query.Model
import Listing.Sql.Simplify
import Listing.Sql.Text

/-!
# Query models as statements

A model asks for two statements: `countStatement` for the number of records that meet its
conditions and `pageStatement` for one page of them. A record meets the conditions if all
conditions of the one group hold or some condition of the other holds, and if every text to find is
in some field. `includeStatement` asks for the records that a relation leads to.

A condition whose operator does not go with its operand is refused; all that are, are reported.
-/

namespace Listing.Sql

/-- The table of an entity. -/
def tableOf (e : Entity) : Table := ⟨e.schema, e.table⟩

/-- The column of a field. -/
def columnOf (f : Field) : Expr := .column f.column

/-- A field as it is selected. Floating-point numbers are widened, so that all numeric columns are
returned in the same way. -/
def itemOf (f : Field) : Item :=
  match f.type with
  | .float => .expr (.cast (columnOf f) "DOUBLE PRECISION") (some f.name)
  | _ => .expr (columnOf f) (some f.name)

/-- A value as a constant. -/
def literalOf : Value → Literal
  | .null => .null
  | .text s => .string s
  | .integer n => .integer n
  | .float x => .float x
  | .boolean b => .boolean b
  | .instant i => .timestamp i

/-! ### Conditions -/

/-- Whether a field has a value. A field that always has one is never without. -/
def equals (f : Field) : Value → Expr
  | .null => if f.nullable then .isNull (columnOf f) false else .boolean false
  | v => .binary (columnOf f) .eq (.literal (literalOf v))

/-- Whether a field has one of some values. -/
def equalsAny (f : Field) (values : List Value) : Expr :=
  (Expr.join? .or (values.map (equals f))).getD (.boolean false)

/-- The comparison that an operator stands for, if it stands for one. -/
def comparison? : Operator → Option BinaryOp
  | .greaterThan => some .gt
  | .greaterOrEqual => some .ge
  | .lessThan => some .lt
  | .lessOrEqual => some .le
  | _ => none

/-- Whether the text of a field fits a pattern. -/
def fits (f : Field) (p : Pattern) : Expr :=
  .binary (columnOf f) .fits (.string (String.ofList p.posix))

/-- The denial of an expression; where that is unknown, the denial holds. -/
def denial (e : Expr) : Expr := .negate (.orFalse e)

/-- A condition, if its operator goes with its operand. -/
def condition? (c : Condition) : Option Expr :=
  match c.operator, c.operand with
  | .equal, .values vs => some (equalsAny c.field vs)
  | .notEqual, .values vs => some (denial (equalsAny c.field vs))
  | op, .bound v =>
    (comparison? op).map fun cmp => .binary (columnOf c.field) cmp (.literal (literalOf v))
  | op, .pattern p =>
    if op.isPattern then some (if op.isNegated then denial (fits c.field p) else fits c.field p)
    else none
  | _, .values _ => none

/-- The failures of conditions, in order. -/
def mismatches (cs : List Condition) : List Failure :=
  (cs.filter fun c => (condition? c).isNone).map Condition.mismatch

/-! ### Filters -/

/-- The conditions of a model: all of one group, or some of the other. A group without conditions
does not hold, unless there are no conditions at all. -/
def whereClause? (m : Model) : Option Expr :=
  let all := Expr.join? .and (m.allConditions.filterMap condition?)
  let any := Expr.join? .or (m.anyConditions.filterMap condition?)
  if all.isNone && any.isNone then none
  else Expr.join? .or [all.getD (.boolean false), any.getD (.boolean false)]

/-- Whether a text is found in a field. -/
def finds (term : String) (f : Field) : Expr :=
  .binary (.call "strpos" [.cast (columnOf f) "TEXT", .string term]) .gt (.literal (.integer 0))

/-- Whether a text is found in some field; nothing if there are no fields to look in. -/
def termClause? (e : Entity) (term : String) : Option Expr :=
  Expr.join? .or (e.searchable.map (finds term))

/-- The filter of a model before it is simplified; none if every record meets the conditions. -/
def filterOf (m : Model) : Except (List Failure) (Option Expr) :=
  match mismatches (m.allConditions ++ m.anyConditions) with
  | [] =>
    .ok (Expr.join? .and ((whereClause? m).toList ++ m.terms.filterMap (termClause? m.entity)))
  | failures => .error failures

/-! ### Statements -/

/-- A number of rows. -/
def countLiteral (n : Nat) : Expr := .literal (.integer (min n Number.maxSigned : Nat))

/-- The statement for the number of records of a model. -/
def countStatement (m : Model) : Except (List Failure) Statement :=
  (filterOf m).map fun filter =>
    ⟨[.expr (.call "COUNT" [.wildcard]) none], some (tableOf m.entity), filter, [], none, none⟩

/-- The fields that a page of a model has. -/
def pageFields (m : Model) : List Field := if m.isProjection then m.select else m.entity.fields

/-- The order of a model; without one, records are ordered by their identity. -/
def orderOf (m : Model) : List OrderKey :=
  if m.order.isEmpty then [⟨columnOf m.entity.identity, true⟩]
  else m.order.map fun k => ⟨columnOf k.field, k.ascending⟩

/-- The statement for a page of a model. -/
def pageStatement (m : Model) : Except (List Failure) Statement :=
  (filterOf m).map fun filter =>
    ⟨(pageFields m).map itemOf, some (tableOf m.entity), filter, orderOf m,
      some (countLiteral m.limit), some (countLiteral m.skip)⟩

/-- The statement for the records of an entity whose field has one of some values. -/
def includeStatement (target : Entity) (key : Field) (keys : List Literal) : Statement :=
  ⟨target.fields.map itemOf, some (tableOf target),
    some (.inList (columnOf key) (keys.map .literal) false),
    [⟨columnOf target.identity, true⟩], none, none⟩

/-- The text of a statement after the standard passes. -/
def Statement.render (s : Statement) : String := (s.simplify Pass.standard).text

/-- The text of the statement for the number of records of a model. -/
def countText (m : Model) : Except (List Failure) String := (countStatement m).map (·.render)

/-- The text of the statement for a page of a model. -/
def pageText (m : Model) : Except (List Failure) String := (pageStatement m).map (·.render)

end Listing.Sql
