import Listing.Proofs.Query.Building
import Listing.Proofs.Query.Meaning
import Listing.Search.Compile

/-!
# What Queries Match

`Matcher.decides` is what the search index makes of a query **as it is sent**: it reads the JSON
and says whether a document matches. The logic is two-valued. A test of a field that the document
does not have is false, and a `bool` query matches if all of its `must` queries do, enough of its
`should` queries and none of its `must_not` queries. The tests on fields that are there are those
of a `Matcher`. What is no query is not decided at all.

## Main results

* `Matcher.decides_allOf`, `Matcher.decides_someOf`, `Matcher.decides_noneOf` — what the `bool`
  queries mean that clauses are sent as.
* `decides_condition` — the query of a sound condition matches a document exactly where the
  condition holds of the record that the document stores.
* `decides_whereClause` — the query of a sound model matches what its conditions select.
-/

namespace Listing

/-- A value, if it is there. -/
def Value.present? (v : Value) : Option Value := if v.isNull then none else some v

/-- A value **as the search index is told** it: moments of time as texts. -/
def Value.spelled : Value → Json
  | null => .null
  | text s => .string s
  | integer n => .integer n
  | float x => .float x
  | boolean b => .bool b
  | instant i => .string i.text

/-- A value of a type is sent as it is spelled. -/
theorem Value.IsOf.json_eq {type : FieldType} {v : Value} (h : v.IsOf type) :
    v.json = v.spelled := by
  cases v with
  | float x => simp [Value.json, Value.spelled, Json.ofBinary64, h.2 x rfl]
  | _ => rfl

namespace Search

/-! ### Queries as they are read -/

/-- A **document**: the value of each field that it has. The unchanged value of a text has
a name of its own. -/
abbrev Document := String → Option Value

/-- The tests that the search index applies to fields that are there. What a field is tested
against is what stands in the query. -/
structure Matcher where
  /-- Whether the value of a field is the one asked for. -/
  equal : Value → Json → Bool
  /-- Whether the value of a field compares with a bound as the operator says. -/
  compare : Operator → Value → Json → Bool
  /-- Whether the whole value of a field fits an expression. -/
  fits : Value → String → Bool
  /-- Whether the words of a `multi_match` query are found in a document. -/
  words : Json → Document → Bool

/-- The comparison that a word of a `range` query asks for. -/
def orderOf? : String → Option Operator
  | "gt" => some .greaterThan
  | "gte" => some .greaterOrEqual
  | "lt" => some .lessThan
  | "lte" => some .lessOrEqual
  | _ => none

/-- The truth values of the queries in the lists of a `bool` query. -/
structure Ballot where
  /-- Those of the queries that all have to match. -/
  must : List Bool
  /-- Those of the queries of which enough have to match. -/
  should : List Bool
  /-- Those of the queries of which none may match. -/
  mustNot : List Bool
  /-- How many of `should` are enough, if that is said. -/
  minimum? : Option Nat

namespace Ballot

/-- The ballot of a `bool` query that says nothing. -/
def blank : Ballot := ⟨[], [], [], none⟩

/-- A ballot with the truth values of one more list, if there is a list of that name. -/
def enter? (name : String) (answers : List Bool) (b : Ballot) : Option Ballot :=
  match name with
  | "must" | "filter" => some { b with must := answers ++ b.must }
  | "should" => some { b with should := answers ++ b.should }
  | "must_not" => some { b with mustNot := answers ++ b.mustNot }
  | _ => none

/-- How many of `should` have to match: if nothing is said, one, unless there are none or
something else has to match. -/
def minimum (b : Ballot) : Nat :=
  b.minimum?.getD (if b.must.isEmpty && !b.should.isEmpty then 1 else 0)

/-- Whether a `bool` query with these truth values matches. -/
def carries (b : Ballot) : Bool :=
  b.must.all id && decide (b.minimum ≤ b.should.count true) && !b.mustNot.any id

end Ballot

namespace Matcher

variable (M : Matcher) (doc : Document)

/-- Whether a document matches a query that is **not composed** of others. -/
def decidesLeaf (kind : String) (body : Json) : Option Bool :=
  match kind, body with
  | "match_all", .object [] => some true
  | "term", .object [(field, value)] => some ((doc field).any (M.equal · value))
  | "exists", .object [("field", .string field)] => some (doc field).isSome
  | "range", .object [(field, .object bounds)] =>
    (bounds.mapM fun bound => (orderOf? bound.1).map fun op v => M.compare op v bound.2).map
      fun tests => (doc field).any fun v => tests.all (· v)
  | "regexp", .object [(field, .object [("value", .string expression)])] =>
    some ((doc field).any (M.fits · expression))
  | "multi_match", body => some (M.words body doc)
  | _, _ => none

mutual

/-- Whether a document **matches** a query, if it is one. -/
def decides : Json → Option Bool
  | .object [("bool", .object lists)] => (ballot lists).map Ballot.carries
  | .object [(kind, body)] => M.decidesLeaf doc kind body
  | _ => none

/-- Whether a document matches each of some queries. -/
def decidesEach : List Json → Option (List Bool)
  | [] => some []
  | query :: rest => do
    let answer ← decides query
    let answers ← decidesEach rest
    return answer :: answers

/-- The truth values of the queries in the lists of a `bool` query. -/
def ballot : List (String × Json) → Option Ballot
  | [] => some .blank
  | (name, .array queries) :: rest => do
    let answers ← decidesEach queries
    let others ← ballot rest
    others.enter? name answers
  | ("minimum_should_match", .integer (.ofNat n)) :: rest => do
    let others ← ballot rest
    return { others with minimum? := some n }
  | _ => none

end

variable {M doc}

/-! ### Clauses as they are sent -/

@[simp] theorem decides_matchAll : M.decides doc Clause.matchAll.json = some true := rfl

@[simp] theorem decides_term (field : String) (value : Value) :
    M.decides doc (Clause.term field value).json =
      some ((doc field).any (M.equal · value.json)) :=
  rfl

@[simp] theorem decides_present (field : String) :
    M.decides doc (Clause.present field).json = some (doc field).isSome :=
  rfl

@[simp] theorem decides_fits (field : String) (expression : List Char) :
    M.decides doc (Clause.fits field expression).json =
      some ((doc field).any (M.fits · (String.ofList expression))) :=
  rfl

/-- The comparisons are told apart by their words. -/
theorem orderOf?_word {op : Operator} (hop : op.isComparison) : orderOf? op.word = some op := by
  cases op <;> first | rfl | cases hop

/-- A `range` query with one bound is a comparison with it. -/
theorem decides_range {op : Operator} (hop : op.isComparison) (field : String) (bound : Value) :
    M.decides doc (Clause.range field op bound).json =
      some ((doc field).any (M.compare op · bound.json)) := by
  have hleaf : M.decides doc (Clause.range field op bound).json =
      ([(op.word, bound.json)].mapM fun b => (orderOf? b.1).map fun op v => M.compare op v b.2).map
        fun tests => (doc field).any fun v => tests.all (· v) := rfl
  rw [hleaf]
  simp [orderOf?_word hop]

/-- A `bool` query with one list carries what the list does. -/
theorem decides_bool_singleton (name : String) (queries : List Json) :
    M.decides doc (Clause.only "bool" (Clause.only name (.array queries))) =
      ((M.decidesEach doc queries).bind fun answers =>
        Ballot.blank.enter? name answers).map Ballot.carries := by
  rw [Clause.only, Clause.only, decides, ballot, ballot]
  rfl

/-- A `must_not` query matches if the query in it **does not**. -/
theorem decides_noneOf (c : Clause) :
    M.decides doc (Clause.noneOf c).json = (M.decides doc c.json).map (!·) := by
  rw [Clause.json, decides_bool_singleton, decidesEach, decidesEach]
  cases M.decides doc c.json with
  | none => rfl
  | some b => cases b <;> rfl

/-- A `must` query matches if **all** queries in it do. -/
theorem decides_allOf {clauses : List Clause} {answers : List Bool}
    (h : M.decidesEach doc (Clause.jsons clauses) = some answers) :
    M.decides doc (Clause.allOf clauses).json = some (answers.all id) := by
  rw [Clause.json, decides_bool_singleton, h]
  simp [Ballot.enter?, Ballot.blank, Ballot.carries, Ballot.minimum]

/-- A `should` query of which one is enough matches if **some** query in it does. -/
theorem decides_someOf {clauses : List Clause} {answers : List Bool}
    (h : M.decidesEach doc (Clause.jsons clauses) = some answers) :
    M.decides doc (Clause.someOf clauses).json = some (answers.any id) := by
  have hbefore : "minimum_should_match" < "should" := by decide
  -- The members of an object are in the order of their names.
  have hmembers : ∀ queries : Json,
      Members.ofPairs [("should", queries), ("minimum_should_match", .integer 1)] =
        [("minimum_should_match", .integer (.ofNat 1)), ("should", queries)] := by
    simp [Members.ofPairs, Members.insert, hbefore]
  have hsome : decide (true ∈ answers) = answers.any id := by
    rw [Bool.eq_iff_iff]
    simp
  rw [Clause.json, Json.ofPairs, hmembers, Clause.only, decides, ballot, ballot, h, ballot]
  simp [Ballot.enter?, Ballot.blank, Ballot.carries, Ballot.minimum, List.one_le_count_iff, hsome]

/-- Of decided clauses in front of decided ones all are decided. -/
theorem decidesEach_jsons_cons {c : Clause} {clauses : List Clause} {answer : Bool}
    {answers : List Bool} (h : M.decides doc c.json = some answer)
    (hrest : M.decidesEach doc (Clause.jsons clauses) = some answers) :
    M.decidesEach doc (Clause.jsons (c :: clauses)) = some (answer :: answers) := by
  rw [Clause.jsons, decidesEach, h, hrest]
  rfl

/-- If every item of a list has a clause, and that is decided, all of the clauses are. -/
theorem decidesEach_filterMap {α : Type} {f : α → Option Clause} {q : α → Bool} {items : List α}
    (h : ∀ a ∈ items, ∃ c, f a = some c ∧ M.decides doc c.json = some (q a)) :
    M.decidesEach doc (Clause.jsons (items.filterMap f)) = some (items.map q) := by
  induction items with
  | nil => rfl
  | cons a rest ih =>
      obtain ⟨c, hc, hdecides⟩ := h a (by simp)
      rw [List.filterMap_cons_some hc]
      exact decidesEach_jsons_cons hdecides (ih fun a' ha' => h a' (by simp [ha']))

end Matcher

/-! ### Documents -/

/-- A document **stores** a record: the fields without a value are absent, and the
unchanged value of every other field is there under both of its names. -/
def Document.Stores (e : Entity) (valueOf : Field → Value) (doc : Document) : Prop :=
  ∀ f ∈ e.fields, doc f.indexField = (valueOf f).present? ∧
    doc f.exactIndexField = (valueOf f).present?

/-- The search index **agrees** with some tests on a condition if, on a value that is there,
it decides what the condition asks for in the same way. -/
def Matcher.AgreesOn (M : Matcher) (t : Tests) (v : Value) (c : Condition) : Prop :=
  match c.operand with
  | .values ws => ∀ w ∈ ws, w.isNull = false → M.equal v w.spelled = t.equal v w
  | .bound w => M.compare c.operator v w.spelled = t.compare c.operator v w
  | .pattern p => M.fits v (String.ofList p.lucene) = t.fits v p

/-! ### Conditions -/

variable {M : Matcher} {t : Tests} {e : Entity} {valueOf : Field → Value} {doc : Document}

/-- A test of a field that a document may have is a test of the value that it stores. -/
theorem any_exactIndexField (hdoc : doc.Stores e valueOf) {f : Field} (hf : f ∈ e.fields)
    (test test' : Value → Bool)
    (hagree : (valueOf f).isNull = false → test (valueOf f) = test' (valueOf f)) :
    (doc f.exactIndexField).any test = (!(valueOf f).isNull && test' (valueOf f)) := by
  rw [(hdoc f hf).2, Value.present?]
  cases h : (valueOf f).isNull with
  | true => rfl
  | false => simp [hagree h]

/-- A value other than none is asked for by a `term` query. -/
theorem equals_of_isNull_eq_false (f : Field) {v : Value} (hv : v.isNull = false) :
    equals f v = .term f.exactIndexField v := by
  cases v <;> first | rfl | cases hv

/-- The query for an alternative matches the documents that store it. -/
theorem decides_equals (hdoc : doc.Stores e valueOf) (hfills : e.FilledBy valueOf) {f : Field}
    (hf : f ∈ e.fields) {v : Value} (hv : v = .null ∨ v.IsOf f.type)
    (hagree : (valueOf f).isNull = false → v.isNull = false →
      M.equal (valueOf f) v.spelled = t.equal (valueOf f) v) :
    M.decides doc (equals f v).json = some (t.isOne (valueOf f) v) := by
  rcases hv with rfl | hv
  · have hisOne : t.isOne (valueOf f) .null = (valueOf f).isNull := rfl
    simp only [equals]
    split
    · rw [Matcher.decides_noneOf, Matcher.decides_present, (hdoc f hf).1, Value.present?, hisOne]
      cases (valueOf f).isNull <;> rfl
    · next hnullable =>
      rw [Matcher.decides_noneOf, Matcher.decides_matchAll, hisOne,
        hfills f hf (Bool.eq_false_iff.mpr hnullable)]
      rfl
  · have hthere : v.isNull = false := by
      obtain ⟨htype, -⟩ := hv
      cases v <;> first | rfl | cases htype
    have hisOne : t.isOne (valueOf f) v = (!(valueOf f).isNull && t.equal (valueOf f) v) := by
      cases v <;> first | rfl | cases hthere
    rw [equals_of_isNull_eq_false f hthere, Matcher.decides_term, hv.json_eq, hisOne,
      any_exactIndexField hdoc hf (M.equal · v.spelled) (t.equal · v) fun h => hagree h hthere]

/-- The query for some alternatives matches the documents that store one of them. -/
theorem decides_equalsAny (hdoc : doc.Stores e valueOf) (hfills : e.FilledBy valueOf) {f : Field}
    (hf : f ∈ e.fields) {vs : List Value} (hvs : ∀ v ∈ vs, v = .null ∨ v.IsOf f.type)
    (hagree : (valueOf f).isNull = false →
      ∀ w ∈ vs, w.isNull = false → M.equal (valueOf f) w.spelled = t.equal (valueOf f) w) :
    M.decides doc (equalsAny f vs).json = some (vs.any (t.isOne (valueOf f))) := by
  have heach : M.decidesEach doc (Clause.jsons (vs.map (equals f))) =
      some (vs.map (t.isOne (valueOf f))) := by
    rw [← List.filterMap_eq_map]
    refine Matcher.decidesEach_filterMap ?_
    intro v hv
    exact ⟨_, rfl, decides_equals hdoc hfills hf (hvs v hv) fun h => hagree h v hv⟩
  rw [equalsAny, Matcher.decides_someOf heach, List.any_map]
  rfl

/-- A bound goes with the comparisons. -/
theorem condition?_bound (f : Field) (op : Operator) (v : Value) (source : String) :
    condition? ⟨f, op, .bound v, source⟩ =
      if op.isComparison then some (.range f.exactIndexField op v) else none := by
  cases op <;> rfl

/-- A pattern goes with the tests of texts. -/
theorem condition?_pattern {op : Operator} (hop : op.isPattern) (f : Field) (p : Pattern)
    (source : String) :
    condition? ⟨f, op, .pattern p, source⟩ =
      some (if op.isNegated then .noneOf (.fits f.exactIndexField p.lucene)
        else .fits f.exactIndexField p.lucene) := by
  cases op <;> first | rfl | cases hop

/-- A sound condition is not refused. -/
theorem exists_condition? {c : Condition} (hc : c.Sound e) :
    ∃ clause, condition? c = some clause := by
  obtain ⟨f, op, operand, source⟩ := c
  have hsuits := hc.suits
  cases operand with
  | values vs =>
      obtain ⟨rfl | rfl, -⟩ := hsuits
      · exact ⟨_, rfl⟩
      · exact ⟨_, rfl⟩
  | bound v => exact ⟨_, by rw [condition?_bound, if_pos hsuits.1]⟩
  | pattern p => exact ⟨_, condition?_pattern hsuits.1 f p source⟩

/-- The query of a sound condition matches the documents of the records **of which it
holds**. -/
theorem decides_condition (hdoc : doc.Stores e valueOf) (hfills : e.FilledBy valueOf)
    {c : Condition} (hc : c.Sound e)
    (hagree : (valueOf c.field).isNull = false → M.AgreesOn t (valueOf c.field) c)
    {clause : Clause} (h : condition? c = some clause) :
    M.decides doc clause.json = some (c.holds t valueOf) := by
  obtain ⟨f, op, operand, source⟩ := c
  have hsuits := hc.suits
  have hf : f ∈ e.fields := hc.field_mem
  cases operand with
  | values vs =>
      obtain ⟨hop, -, hvs⟩ := hsuits
      have hany : M.decides doc (equalsAny f vs).json = some (vs.any (t.isOne (valueOf f))) :=
        decides_equalsAny hdoc hfills hf hvs hagree
      rcases hop with rfl | rfl
      · obtain rfl := Option.some.inj h
        exact hany
      · obtain rfl := Option.some.inj h
        rw [Matcher.decides_noneOf, hany]
        rfl
  | bound v =>
      obtain ⟨hop, hv⟩ := hsuits
      rw [condition?_bound, if_pos hop] at h
      obtain rfl := Option.some.inj h
      rw [Condition.holds_bound hop, Matcher.decides_range hop, hv.json_eq,
        any_exactIndexField hdoc hf (M.compare op · v.spelled) (t.compare op · v) hagree]
  | pattern p =>
      have hop : op.isPattern := hsuits.1
      have hfits : M.decides doc (Clause.fits f.exactIndexField p.lucene).json =
          some (!(valueOf f).isNull && t.fits (valueOf f) p) := by
        rw [Matcher.decides_fits, any_exactIndexField hdoc hf
          (M.fits · (String.ofList p.lucene)) (t.fits · p) hagree]
      rw [condition?_pattern hop] at h
      obtain rfl := Option.some.inj h
      rw [Condition.holds_pattern hop]
      split
      · next hneg => rw [Matcher.decides_noneOf, hfits, hneg, Bool.bne_true, Option.map_some]
      · next hneg => rw [hfits, Bool.eq_false_iff.mpr hneg, Bool.bne_false]

/-! ### Groups of conditions -/

/-- The query of two groups matches if all of the one do, and there are any, or some of
the other. Without clauses there is no query, and every document will do. -/
theorem decides_groupClause? {all any : List Clause} {alls anys : List Bool}
    (hall : M.decidesEach doc (Clause.jsons all) = some alls)
    (hany : M.decidesEach doc (Clause.jsons any) = some anys) :
    (groupClause? all any).elim (some true) (fun clause => M.decides doc clause.json) =
      some ((all.isEmpty && any.isEmpty) || (!all.isEmpty && alls.all id) || anys.any id) := by
  cases all with
  | nil =>
      cases any with
      | nil => rfl
      | cons c rest => simp [groupClause?, Matcher.decides_someOf hany]
  | cons c rest =>
      have hboth := Matcher.decidesEach_jsons_cons (Matcher.decides_allOf hall) hany
      simp [groupClause?, Matcher.decides_someOf hboth]

/-- Of sound conditions none is refused. -/
theorem mismatches_eq_nil {cs : List Condition} (h : ∀ c ∈ cs, c.Sound e) :
    mismatches cs = [] := by
  rw [mismatches, filter_isNone_of_forall fun c hc => exists_condition? (h c hc), List.map_nil]

/-- The clause of a sound model is that of its two groups. -/
theorem whereClause_eq {m : Model} (hm : m.Sound) :
    whereClause m = .ok (groupClause? (m.allConditions.filterMap condition?)
      (m.anyConditions.filterMap condition?)) := by
  have hnil : mismatches (m.allConditions ++ m.anyConditions) = [] :=
    mismatches_eq_nil fun c hc => hm.condition hc
  rw [whereClause, hnil]

/-- The search index **agrees** with some tests on all conditions of a model, as far as the
values of a record are there. -/
def Matcher.AgreesFor (M : Matcher) (t : Tests) (valueOf : Field → Value) (m : Model) : Prop :=
  ∀ kind, ∀ c ∈ m.conditionsOf kind, (valueOf c.field).isNull = false →
    M.AgreesOn t (valueOf c.field) c

/-- The query of a sound model matches the documents of the records that its conditions
**select**. -/
theorem decides_whereClause {m : Model} (hm : m.Sound) (hdoc : doc.Stores m.entity valueOf)
    (hfills : m.entity.FilledBy valueOf) (hagree : M.AgreesFor t valueOf m)
    {clause : Option Clause} (h : whereClause m = .ok clause) :
    clause.elim (some true) (fun clause => M.decides doc clause.json) =
      some (m.selects t valueOf) := by
  have heach : ∀ kind,
      M.decidesEach doc (Clause.jsons ((m.conditionsOf kind).filterMap condition?)) =
        some ((m.conditionsOf kind).map (·.holds t valueOf)) := by
    intro kind
    refine Matcher.decidesEach_filterMap ?_
    intro c hc
    have hsound := hm.conditions kind c hc
    obtain ⟨clause, hclause⟩ := exists_condition? hsound
    exact ⟨clause, hclause, decides_condition hdoc hfills hsound (hagree kind c hc) hclause⟩
  have hempty : ∀ kind, ((m.conditionsOf kind).filterMap condition?).isEmpty =
      (m.conditionsOf kind).isEmpty := by
    intro kind
    rw [Bool.eq_iff_iff, List.isEmpty_iff, List.isEmpty_iff, filterMap_eq_nil_of_forall]
    exact fun c hc => exists_condition? (hm.conditions kind c hc)
  rw [whereClause_eq hm] at h
  obtain rfl := Except.ok.inj h
  have hgroups := decides_groupClause? (heach .all) (heach .any)
  rw [hempty, hempty, List.all_map, List.any_map] at hgroups
  exact hgroups

end Search

end Listing
