import Listing.Pattern.Check
import Listing.Query.Model

/-!
# Building query models

`Model.build` checks what a query string asks for against an entity and puts it together. Each
directive is checked on its own: it becomes a `Part` of the model or a `Rejection`. If any directive
is rejected, all rejections are reported in order; only otherwise are the parts put together.
-/

namespace Listing

/-- A cause for which a directive is rejected. -/
inductive Rejection where
  /-- The entity has no such field. -/
  | unknownField (name entity : String)
  /-- Records may not be selected by the field. -/
  | notFilterable (field : String)
  /-- Records may not be ordered by the field. -/
  | notOrderable (field : String)
  /-- The entity has no such relation. -/
  | unknownRelation (name entity : String)
  /-- A comparison has nothing to compare with. -/
  | valueRequired (op : Operator)
  /-- A pattern is asked of a field without texts. -/
  | notATextField (op : Operator) (field : Field)
  /-- A field that always has a value is compared with none. -/
  | emptyValue (field : Field)
  /-- A text denotes no value of the type. -/
  | invalidValue (raw : String) (type : FieldType)
  /-- The pattern is refused. -/
  | invalidPattern (fault : PatternFault)
deriving DecidableEq, Repr

/-- The text of a rejection. -/
def Rejection.message : Rejection → String
  | unknownField name entity => "'" ++ name ++ "' is not a field of '" ++ entity ++ "'"
  | notFilterable field => "field '" ++ field ++ "' cannot be filtered"
  | notOrderable field => "field '" ++ field ++ "' cannot be used for ordering"
  | unknownRelation name entity => "'" ++ name ++ "' is not a relation of '" ++ entity ++ "'"
  | valueRequired op => "'" ++ op.word ++ "' requires a value"
  | notATextField op field =>
    "'" ++ op.word ++ "' is not supported on " ++ field.type.label ++ " field '" ++ field.name ++
      "'"
  | emptyValue field =>
    "empty value for non-nullable " ++ field.type.label ++ " field '" ++ field.name ++ "'"
  | invalidValue raw type => "'" ++ raw ++ "' is not a valid " ++ type.label
  | invalidPattern fault => fault.message

/-- The word for no value among alternatives. -/
def nullWord : String := "null"

/-- The largest number of records that a store can skip or return. -/
def maxOffset : Nat := Number.maxSigned

/-! ### Conditions -/

/-- The alternatives of a text: a bar separates them unless a backslash precedes it. The characters
of the alternative being read are in `pending`, last one first. -/
def alternativesFrom (pending : List Char) : List Char → List (List Char)
  | [] => [pending.reverse]
  | '\\' :: '|' :: cs => alternativesFrom ('|' :: pending) cs
  | '|' :: cs => pending.reverse :: alternativesFrom [] cs
  | c :: cs => alternativesFrom (c :: pending) cs

/-- The alternatives of a text. -/
def alternatives (raw : List Char) : List (List Char) := alternativesFrom [] raw

/-- The value of a type that a text denotes. -/
def valueOf (type : FieldType) (raw : String) : Except Rejection Value :=
  match Value.read? type raw with
  | some v => .ok v
  | none => .error (.invalidValue raw type)

/-- The value of an alternative. Nothing at all stands for no value if the field may have none. -/
def alternative (field : Field) (raw : String) : Except Rejection Value :=
  if raw = nullWord then .ok .null
  else if raw.isEmpty then
    if field.nullable then .ok .null
    else
      match field.type with
      | .text => .ok (.text "")
      | _ => .error (.emptyValue field)
  else valueOf field.type raw

/-- The pattern of an operator. -/
def patternOf (field : Field) (op : Operator) (raw : String) : Except Rejection Operand :=
  match field.type with
  | .text =>
    let p :=
      match op with
      | .like | .notLike => Pattern.ofLike raw.toList
      | _ => Pattern.ofContains raw.toList
    match Pattern.check p with
    | .ok () => .ok (.pattern p)
    | .error fault => .error (.invalidPattern fault)
  | _ => .error (.notATextField op field)

/-- What a field is compared with. -/
def operandOf (field : Field) (op : Operator) (raw : String) : Except Rejection Operand :=
  match op with
  | .equal | .notEqual =>
    ((alternatives raw.toList).mapM fun a => alternative field (String.ofList a)).map .values
  | .greaterThan | .greaterOrEqual | .lessThan | .lessOrEqual =>
    if raw.isEmpty || raw = nullWord then .error (.valueRequired op)
    else (valueOf field.type raw).map .bound
  | .like | .notLike | .contains | .notContains => patternOf field op raw

/-- The field of a selection. Paths that lead to other entities are not followed. -/
def filterField (e : Entity) (s : Selection) : Except Rejection Field :=
  if 1 < s.path.length then .error (.unknownField (".".intercalate s.path) e.name)
  else
    match e.field? s.fieldName with
    | none => .error (.unknownField s.fieldName e.name)
    | some field => if field.filterable then .ok field else .error (.notFilterable field.name)

/-- The condition of a selection. -/
def conditionOf (e : Entity) (s : Selection) : Except Rejection Condition := do
  let field ← filterField e s
  let operand ← operandOf field s.operator s.rawValue
  return ⟨field, s.operator, operand, s.source⟩

/-! ### Directives -/

/-- What a directive adds to a model. -/
inductive Part where
  /-- A condition in a group. -/
  | condition (group : GroupKind) (c : Condition)
  /-- A key of the order at a position. -/
  | sortKey (index : Nat) (key : SortKey)
  /-- How many records to skip. -/
  | skip (count : Nat)
  /-- How many records to return. -/
  | limit (count : Nat)
  /-- A relation to follow. -/
  | relation (r : Relation)
  /-- A field to return. -/
  | field (f : Field)
  /-- A text to find, if it is not blank. -/
  | term (text : String)

/-- The key of the order that a sorting asks for. -/
def sortKeyOf (e : Entity) (s : Sorting) : Except Rejection SortKey :=
  match e.field? s.field with
  | none => .error (.unknownField s.field e.name)
  | some field =>
    if field.orderable then .ok ⟨field, s.ascending⟩ else .error (.notOrderable field.name)

/-- What a directive adds to a model of an entity. -/
def Directive.check (e : Entity) : Directive → Except Rejection Part
  | selection s => (conditionOf e s).map (.condition s.group)
  | sorting s => (sortKeyOf e s).map (.sortKey s.index)
  | skip n _ => .ok (.skip n)
  | limit n _ => .ok (.limit n)
  | relation name _ =>
    match e.relation? name with
    | some r => .ok (.relation r)
    | none => .error (.unknownRelation name e.name)
  | field name _ =>
    match e.field? name with
    | some f => .ok (.field f)
    | none => .error (.unknownField name e.name)
  | freeText text => .ok (.term text.trimmed)

/-- The failure of a directive, if it is rejected. -/
def Directive.failure? (e : Entity) (d : Directive) : Option Failure :=
  match d.check e with
  | .ok _ => none
  | .error r => some ⟨d.source, r.message⟩

/-- What a directive adds to a model, if it is not rejected. -/
def Directive.part? (e : Entity) (d : Directive) : Option Part := (d.check e).toOption

/-! ### Putting the parts together -/

/-- The groups with a condition added to that of its kind, which is new if there is none. -/
def addCondition (groups : List Group) (kind : GroupKind) (c : Condition) : List Group :=
  match groups with
  | [] => [⟨kind, [c]⟩]
  | g :: rest =>
    if g.kind = kind then ⟨kind, g.conditions ++ [c]⟩ :: rest
    else g :: addCondition rest kind c

/-- The list with an item added, unless there is one of the same name. -/
def addNamed {α : Type} (nameOf : α → String) (items : List α) (a : α) : List α :=
  if items.any (nameOf · == nameOf a) then items else items ++ [a]

namespace Part

/-- The condition of a part. -/
def condition? : Part → Option (GroupKind × Condition)
  | condition g c => some (g, c)
  | _ => none

/-- The key of the order of a part. -/
def sortKey? : Part → Option (Nat × SortKey)
  | sortKey i k => some (i, k)
  | _ => none

/-- The number of records that a part skips. -/
def skip? : Part → Option Nat
  | skip n => some n
  | _ => none

/-- The number of records that a part asks for. -/
def limit? : Part → Option Nat
  | limit n => some n
  | _ => none

/-- The relation of a part. -/
def relation? : Part → Option Relation
  | relation r => some r
  | _ => none

/-- The field of a part. -/
def field? : Part → Option Field
  | field f => some f
  | _ => none

/-- The text to find of a part. -/
def term? : Part → Option String
  | term t => if t.isEmpty then none else some t
  | _ => none

end Part

/-- The number of records of a page: what the last limit asks for, but never more than the largest
page, which is also what a limit of zero stands for. -/
def pageSize (maxLimit : Nat) : Option Nat → Nat
  | none => min maxLimit maxOffset
  | some n => min (if n = 0 then maxLimit else min n maxLimit) maxOffset

/-- The model of an entity that some parts make up. -/
def Model.ofParts (e : Entity) (maxLimit : Nat) (parts : List Part) : Model where
  entity := e
  groups :=
    (parts.filterMap Part.condition?).foldl (fun groups p => addCondition groups p.1 p.2) []
  order := ((parts.filterMap Part.sortKey?).mergeSort fun a b => a.1 ≤ b.1).map (·.2)
  select := (parts.filterMap Part.field?).foldl (addNamed (·.name)) []
  includes := (parts.filterMap Part.relation?).foldl (addNamed (·.name)) []
  skip := min ((parts.filterMap Part.skip?).getLast?.getD 0) maxOffset
  limit := pageSize maxLimit (parts.filterMap Part.limit?).getLast?
  terms := parts.filterMap Part.term?

/-- The model that directives ask for, or what is wrong with them. -/
def Model.build (directives : List Directive) (maxLimit : Nat) (e : Entity) :
    Except (List Failure) Model :=
  match directives.filterMap (Directive.failure? e) with
  | [] => .ok (.ofParts e maxLimit (directives.filterMap (Directive.part? e)))
  | failures => .error failures

end Listing
