import Listing.Query.Builder

/-!
# What Building Guarantees

A model that `Model.build` returns is **sound** (`Model.Sound`): each of its conditions is
on a filterable field of the entity, with an operand that goes with the operator and with
values of the type of the field, and its counts fit the stores. The stores rely on this
when they are asked.

## Main results

* `conditionsOf_ofParts` — the conditions of a group are those of the directives of its
  kind, in order.
* `sound_of_conditionOf` — a condition that is not rejected is sound.
* `sound_of_build` — so is a model.
-/

namespace Listing

/-! ### Sound conditions -/

/-- A value **of a type**; a floating-point number is finite. -/
def Value.IsOf (type : FieldType) (v : Value) : Prop :=
  v.type? = some type ∧ ∀ x, v = .float x → x.isFinite

/-- What goes with an operator on a field: alternatives with equality, a bound with a
comparison, a pattern with a test of texts. -/
def Operand.Suits (f : Field) (op : Operator) : Operand → Prop
  | .values vs => (op = .equal ∨ op = .notEqual) ∧ vs ≠ [] ∧ ∀ v ∈ vs, v = .null ∨ v.IsOf f.type
  | .bound v => op.isComparison ∧ v.IsOf f.type
  | .pattern _ => op.isPattern ∧ f.type = .text

/-- A **sound** condition of an entity. -/
structure Condition.Sound (e : Entity) (c : Condition) : Prop where
  /-- The field is one of the entity. -/
  field_mem : c.field ∈ e.fields
  /-- Records may be selected by the field. -/
  filterable : c.field.filterable
  /-- The operand goes with the operator. -/
  suits : c.operand.Suits c.field c.operator

/-- A **sound** model. -/
structure Model.Sound (m : Model) : Prop where
  /-- All conditions are sound. -/
  conditions : ∀ kind, ∀ c ∈ m.conditionsOf kind, c.Sound m.entity
  /-- The stores can skip as many records. -/
  skip_le : m.skip ≤ maxOffset
  /-- The stores can return as many records. -/
  limit_le : m.limit ≤ maxOffset

/-- All conditions of a sound model are sound. -/
theorem Model.Sound.condition {m : Model} (hm : m.Sound) {c : Condition}
    (h : c ∈ m.allConditions ++ m.anyConditions) : c.Sound m.entity := by
  rcases List.mem_append.mp h with h | h
  · exact hm.conditions .all c h
  · exact hm.conditions .any c h

/-! ### Values and operands -/

/-- A value that is read from a text is of the type that was asked for. -/
theorem isOf_of_read? {type : FieldType} {raw : String} {v : Value}
    (h : Value.read? type raw = some v) : v.IsOf type := by
  unfold Value.read? at h
  cases type with
  | text =>
      obtain rfl : Value.text raw = v := Option.some.inj h
      exact ⟨rfl, by simp⟩
  | integer =>
      obtain ⟨n, -, rfl⟩ := Option.map_eq_some_iff.mp h
      exact ⟨rfl, by simp⟩
  | float =>
      obtain ⟨x, hx, rfl⟩ := Option.map_eq_some_iff.mp h
      have hfinite : x.isFinite := (Option.filter_eq_some_iff.mp hx).2
      refine ⟨rfl, ?_⟩
      rintro y ⟨⟩
      exact hfinite
  | boolean =>
      obtain ⟨b, -, rfl⟩ := Option.map_eq_some_iff.mp h
      exact ⟨rfl, by simp⟩
  | instant =>
      obtain ⟨i, -, rfl⟩ := Option.map_eq_some_iff.mp h
      exact ⟨rfl, by simp⟩

/-- A value that is not rejected is of the type that was asked for. -/
theorem isOf_of_valueOf {type : FieldType} {raw : String} {v : Value}
    (h : valueOf type raw = .ok v) : v.IsOf type := by
  unfold valueOf at h
  split at h
  · next w hw =>
    obtain rfl : w = v := Except.ok.inj h
    exact isOf_of_read? hw
  · cases h

/-- An alternative is no value or one of the type of the field. -/
theorem isOf_of_alternative {f : Field} {raw : String} {v : Value}
    (h : alternative f raw = .ok v) : v = .null ∨ v.IsOf f.type := by
  unfold alternative at h
  split at h
  · exact .inl (Except.ok.inj h).symm
  split at h
  · split at h
    · exact .inl (Except.ok.inj h).symm
    split at h
    · next htext =>
      obtain rfl : Value.text "" = v := Except.ok.inj h
      exact .inr ⟨htext ▸ rfl, by simp⟩
    · cases h
  · exact .inr (isOf_of_valueOf h)

/-- There is always an alternative. -/
theorem alternativesFrom_ne_nil (pending cs : List Char) : alternativesFrom pending cs ≠ [] := by
  fun_induction alternativesFrom pending cs with
  | case1 pending => simp
  | case2 pending cs ih => exact ih
  | case3 pending cs ih => simp
  | case4 pending c cs _ _ ih => exact ih

/-- What a list is mapped to, if nothing is rejected: one result for each item. -/
theorem mapM_ok {α β ε : Type} {f : α → Except ε β} :
    ∀ {xs : List α} {ys : List β}, xs.mapM f = .ok ys →
      ys.length = xs.length ∧ ∀ y ∈ ys, ∃ x ∈ xs, f x = .ok y
  | [], ys, h => by
      obtain rfl : [] = ys := Except.ok.inj h
      simp
  | x :: xs, ys, h => by
      rw [List.mapM_cons] at h
      cases hx : f x with
      | error r => rw [hx] at h; cases h
      | ok y =>
          cases hxs : xs.mapM f with
          | error r => rw [hx, hxs] at h; cases h
          | ok rest =>
              rw [hx, hxs] at h
              obtain rfl : y :: rest = ys := Except.ok.inj h
              obtain ⟨hlen, hmem⟩ := mapM_ok hxs
              refine ⟨by simp [hlen], ?_⟩
              intro z hz
              rcases List.mem_cons.mp hz with rfl | hz
              · exact ⟨x, by simp, hx⟩
              · obtain ⟨w, hw, hfw⟩ := hmem z hz
                exact ⟨w, by simp [hw], hfw⟩

/-- The alternatives of a text suit a test for equality. -/
theorem suits_of_alternatives {f : Field} {op : Operator} {raw : String} {operand : Operand}
    (hop : op = .equal ∨ op = .notEqual)
    (h : ((alternatives raw.toList).mapM fun a => alternative f (String.ofList a)).map .values =
      .ok operand) : operand.Suits f op := by
  cases hvs : (alternatives raw.toList).mapM fun a => alternative f (String.ofList a) with
  | error r => rw [hvs] at h; cases h
  | ok vs =>
      rw [hvs] at h
      obtain rfl : Operand.values vs = operand := Except.ok.inj h
      obtain ⟨hlen, hmem⟩ := mapM_ok hvs
      refine ⟨hop, ?_, ?_⟩
      · rintro rfl
        exact alternativesFrom_ne_nil [] raw.toList (List.length_eq_zero_iff.mp hlen.symm)
      · intro v hv
        obtain ⟨a, -, ha⟩ := hmem v hv
        exact isOf_of_alternative ha

/-- The bound of a comparison suits it. -/
theorem suits_of_bound {f : Field} {op : Operator} {raw : String} {operand : Operand}
    (hop : op.isComparison)
    (h : (if raw.isEmpty || raw = nullWord then .error (.valueRequired op)
      else (valueOf f.type raw).map .bound) = .ok operand) : operand.Suits f op := by
  split at h
  · cases h
  cases hv : valueOf f.type raw with
  | error r => rw [hv] at h; cases h
  | ok v =>
      rw [hv] at h
      obtain rfl : Operand.bound v = operand := Except.ok.inj h
      exact ⟨hop, isOf_of_valueOf hv⟩

/-- A pattern suits the test that it is for. -/
theorem suits_of_patternOf {f : Field} {op : Operator} {raw : String} {operand : Operand}
    (hop : op.isPattern) (h : patternOf f op raw = .ok operand) : operand.Suits f op := by
  unfold patternOf at h
  split at h
  · next htext =>
    simp only at h
    split at h
    · obtain rfl := Except.ok.inj h
      exact ⟨hop, htext⟩
    · cases h
  · cases h

/-- What a field is compared with suits the operator. -/
theorem suits_of_operandOf {f : Field} {op : Operator} {raw : String} {operand : Operand}
    (h : operandOf f op raw = .ok operand) : operand.Suits f op := by
  cases op with
  | equal => exact suits_of_alternatives (.inl rfl) h
  | notEqual => exact suits_of_alternatives (.inr rfl) h
  | greaterThan | greaterOrEqual | lessThan | lessOrEqual => exact suits_of_bound rfl h
  | like | notLike | contains | notContains => exact suits_of_patternOf rfl h

/-! ### Conditions -/

/-- What is found under a name is one of the items. -/
theorem mem_of_findNamed {α : Type} {nameOf : α → String} {name : String} {items : List α} {a : α}
    (h : findNamed nameOf name items = some a) : a ∈ items := by
  unfold findNamed at h
  split at h
  · next b hb =>
    obtain rfl : b = a := Option.some.inj h
    exact List.mem_of_find?_eq_some hb
  · exact List.mem_of_find?_eq_some h

/-- A condition is on a filterable field of the entity. -/
theorem mem_of_filterField {e : Entity} {s : Selection} {f : Field}
    (h : filterField e s = .ok f) : f ∈ e.fields ∧ f.filterable := by
  unfold filterField at h
  split at h
  · cases h
  split at h
  · cases h
  split at h
  · next g hg hfilterable =>
    obtain rfl : g = f := Except.ok.inj h
    exact ⟨mem_of_findNamed hg, hfilterable⟩
  · cases h

/-- A condition that is not rejected is **sound**. -/
theorem sound_of_conditionOf {e : Entity} {s : Selection} {c : Condition}
    (h : conditionOf e s = .ok c) : c.Sound e := by
  unfold conditionOf at h
  cases hf : filterField e s with
  | error r => rw [hf] at h; cases h
  | ok f =>
      rw [hf] at h
      cases ho : operandOf f s.operator s.rawValue with
      | error r =>
          simp only [bind, Except.bind, ho] at h
          cases h
      | ok operand =>
          simp only [bind, Except.bind, ho] at h
          obtain rfl := Except.ok.inj h
          obtain ⟨hmem, hfilterable⟩ := mem_of_filterField hf
          exact ⟨hmem, hfilterable, suits_of_operandOf ho⟩

/-! ### Groups -/

/-- The conditions of the groups of a kind. -/
def conditionsIn (kind : GroupKind) (groups : List Group) : List Condition :=
  (groups.filter (·.kind = kind)).flatMap (·.conditions)

/-- Adding a condition makes no second group of a kind. -/
theorem kinds_addCondition (groups : List Group) (kind : GroupKind) (c : Condition) :
    (addCondition groups kind c).map (·.kind) =
      if kind ∈ groups.map (·.kind) then groups.map (·.kind)
      else groups.map (·.kind) ++ [kind] := by
  induction groups with
  | nil => simp [addCondition]
  | cons g rest ih =>
      unfold addCondition
      by_cases h : g.kind = kind
      · simp [h]
      · have h' : kind ≠ g.kind := fun hk => h hk.symm
        simp only [if_neg h, List.map_cons, ih, List.mem_cons, h', false_or]
        split <;> simp

/-- Groups of different kinds stay of different kinds. -/
theorem nodup_addCondition {groups : List Group} (h : (groups.map (·.kind)).Nodup)
    (kind : GroupKind) (c : Condition) : ((addCondition groups kind c).map (·.kind)).Nodup := by
  rw [kinds_addCondition]
  split
  · exact h
  · next hk =>
    rw [List.nodup_append]
    refine ⟨h, by simp, ?_⟩
    rintro a ha b hb rfl
    rw [List.mem_singleton] at hb
    exact hk (hb ▸ ha)

/-- A condition is added behind the others of its kind. -/
theorem conditionsIn_addCondition {groups : List Group} (h : (groups.map (·.kind)).Nodup)
    (kind other : GroupKind) (c : Condition) :
    conditionsIn other (addCondition groups kind c) =
      conditionsIn other groups ++ if kind = other then [c] else [] := by
  induction groups with
  | nil => by_cases hk : kind = other <;> simp [addCondition, conditionsIn, hk]
  | cons g rest ih =>
      obtain ⟨hg, hrest⟩ := List.nodup_cons.mp h
      unfold addCondition
      by_cases hk : g.kind = kind
      · subst hk
        by_cases ho : g.kind = other
        · -- no later group has the kind, so the condition comes last
          have hnone : rest.filter (·.kind = other) = [] := by
            rw [List.filter_eq_nil_iff]
            intro g' hg' hkind
            have hsame : g'.kind = g.kind := (of_decide_eq_true hkind).trans ho.symm
            exact hg (List.mem_map.mpr ⟨g', hg', hsame⟩)
          simp [conditionsIn, ho, hnone]
        · simp [conditionsIn, ho]
      · rw [if_neg hk]
        have ih' := ih hrest
        simp only [conditionsIn] at ih' ⊢
        by_cases ho : g.kind = other <;> simp [ho, ih']

/-- The conditions of a group, put together one by one, in order. -/
theorem conditionsIn_foldl (kind : GroupKind) (added : List (GroupKind × Condition)) :
    ∀ {groups : List Group}, (groups.map (·.kind)).Nodup →
      conditionsIn kind (added.foldl (fun groups p => addCondition groups p.1 p.2) groups) =
        conditionsIn kind groups ++ (added.filter (·.1 = kind)).map (·.2) := by
  induction added with
  | nil => simp
  | cons p rest ih =>
      intro groups h
      rw [List.foldl_cons, ih (nodup_addCondition h p.1 p.2), conditionsIn_addCondition h]
      by_cases hk : p.1 = kind <;> simp [hk]

/-- The conditions of a kind are those of the parts of that kind, in order. -/
theorem conditionsOf_ofParts (e : Entity) (maxLimit : Nat) (parts : List Part) (kind : GroupKind) :
    (Model.ofParts e maxLimit parts).conditionsOf kind =
      ((parts.filterMap Part.condition?).filter (·.1 = kind)).map (·.2) :=
  conditionsIn_foldl kind _ (by simp)

/-! ### Models -/

/-- Directives that are all accepted make up a model. -/
theorem build_eq_ok {ds : List Directive} {maxLimit : Nat} {e : Entity}
    (h : ds.filterMap (Directive.failure? e) = []) : Model.build ds maxLimit e =
      .ok (.ofParts e maxLimit (ds.filterMap (Directive.part? e))) := by
  rw [Model.build, h]

/-- If some are not, all their failures are reported. -/
theorem build_eq_error {ds : List Directive} {maxLimit : Nat} {e : Entity}
    (h : ds.filterMap (Directive.failure? e) ≠ []) :
    Model.build ds maxLimit e = .error (ds.filterMap (Directive.failure? e)) := by
  unfold Model.build
  split
  · next hnil => exact absurd hnil h
  · rfl

/-- A model that is built is made of what the directives add, none of which is rejected. -/
theorem eq_of_build {ds : List Directive} {maxLimit : Nat} {e : Entity} {m : Model}
    (h : Model.build ds maxLimit e = .ok m) :
    m = .ofParts e maxLimit (ds.filterMap (Directive.part? e)) := by
  unfold Model.build at h
  split at h
  · exact (Except.ok.inj h).symm
  · cases h

/-- The entity of a model is the one that it was built for. -/
theorem entity_of_build {ds : List Directive} {maxLimit : Nat} {e : Entity} {m : Model}
    (h : Model.build ds maxLimit e = .ok m) : m.entity = e := by
  rw [eq_of_build h]
  rfl

/-- A **sound** part of a model of an entity: what it names is declared by the entity, and
what it asks for goes with what it names. -/
def Part.Sound (e : Entity) : Part → Prop
  | condition _ c => c.Sound e
  | sortKey _ k => k.field ∈ e.fields ∧ k.field.orderable
  | skip _ | limit _ => True
  | relation r => r ∈ e.relations
  | field f => f ∈ e.fields
  | term t => ∃ text : String, t = text.trimmed

/-- A key of an order is a field by which records may be ordered. -/
theorem mem_of_sortKeyOf {e : Entity} {s : Sorting} {k : SortKey} (h : sortKeyOf e s = .ok k) :
    k.field ∈ e.fields ∧ k.field.orderable := by
  unfold sortKeyOf at h
  split at h
  · cases h
  split at h
  · next f hf horderable =>
    obtain rfl := Except.ok.inj h
    exact ⟨mem_of_findNamed hf, horderable⟩
  · cases h

/-- What a directive adds is sound unless the directive is rejected. -/
theorem sound_of_check {e : Entity} {d : Directive} {p : Part} (h : d.check e = .ok p) :
    p.Sound e := by
  cases d with
  | selection s =>
      cases hc : conditionOf e s with
      | error r => simp [Directive.check, hc, Except.map] at h
      | ok c =>
          obtain rfl : .condition s.group c = p := by
            simpa [Directive.check, hc, Except.map] using h
          exact sound_of_conditionOf hc
  | sorting s =>
      cases hk : sortKeyOf e s with
      | error r => simp [Directive.check, hk, Except.map] at h
      | ok k =>
          obtain rfl : .sortKey s.index k = p := by simpa [Directive.check, hk, Except.map] using h
          exact mem_of_sortKeyOf hk
  | skip n source | limit n source =>
      obtain rfl := Except.ok.inj h
      trivial
  | relation name source =>
      simp only [Directive.check] at h
      split at h
      · next r hr =>
        obtain rfl := Except.ok.inj h
        exact mem_of_findNamed hr
      · cases h
  | field name source =>
      simp only [Directive.check] at h
      split at h
      · next f hf =>
        obtain rfl := Except.ok.inj h
        exact mem_of_findNamed hf
      · cases h
  | freeText text =>
      obtain rfl := Except.ok.inj h
      exact ⟨text, rfl⟩

/-- All parts that a model is built of are sound. -/
theorem sound_of_mem_parts {e : Entity} {ds : List Directive} {p : Part}
    (h : p ∈ ds.filterMap (Directive.part? e)) : p.Sound e := by
  obtain ⟨d, -, hd⟩ := List.mem_filterMap.mp h
  unfold Directive.part? at hd
  cases hcheck : d.check e with
  | error r => rw [hcheck] at hd; cases hd
  | ok q =>
      rw [hcheck] at hd
      obtain rfl : q = p := Option.some.inj hd
      exact sound_of_check hcheck

/-- Every condition of a built model is sound. -/
theorem sound_of_mem {ds : List Directive} {maxLimit : Nat} {e : Entity} {kind : GroupKind}
    {c : Condition}
    (h : c ∈ (Model.ofParts e maxLimit (ds.filterMap (Directive.part? e))).conditionsOf kind) :
    c.Sound e := by
  rw [conditionsOf_ofParts] at h
  obtain ⟨⟨k, c'⟩, hp, rfl⟩ := List.mem_map.mp h
  obtain ⟨part, hpart, hcond⟩ := List.mem_filterMap.mp (List.mem_filter.mp hp).1
  have hsound := sound_of_mem_parts hpart
  cases part with
  | condition group c'' =>
      obtain ⟨-, rfl⟩ : group = k ∧ c'' = c' := by simpa [Part.condition?] using hcond
      exact hsound
  | _ => cases hcond

/-- A page is never larger than the stores can return. -/
theorem pageSize_le (maxLimit : Nat) (asked : Option Nat) :
    pageSize maxLimit asked ≤ maxOffset := by
  cases asked with
  | none => exact Nat.min_le_right _ _
  | some n => exact Nat.min_le_right _ _

/-- A model that is built is **sound**. -/
theorem sound_of_build {ds : List Directive} {maxLimit : Nat} {e : Entity} {m : Model}
    (h : Model.build ds maxLimit e = .ok m) : m.Sound := by
  rw [eq_of_build h]
  exact ⟨fun _ _ hc => sound_of_mem hc, Nat.min_le_right _ _, pageSize_le _ _⟩

/-! ### An entity -/

namespace Sample

/-- A nullable text in which free text is looked for. -/
def note : Field := { Field.ofName "Note" .text with nullable := true, searchable := true }

/-- An entity of invoices, of which not all have a note. -/
def invoices : Entity where
  name := "Invoice"
  schema := none
  table := "invoices"
  indexed := true
  maxListSize := none
  fields := [.ofName "Id" .integer, note]
  identity := .ofName "Id" .integer
  relations := []
  names_nodup := by decide
  identity_mem := by simp
  localFields_mem := by simp

end Sample

end Listing
