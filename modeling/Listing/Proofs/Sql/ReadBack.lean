import Listing.Proofs.Sql.Filter
import Listing.Proofs.Sql.Grouping

/-!
# Filters Are Read as They Were Meant

`readFilter` finds the filter in the text of a statement: it is what stands between `WHERE` and
the next clause, read by precedence. From the text of a **clear** statement it gets back the
filter of the statement without its parentheses. Both statements of a model that is built are
clear after the standard passes, so that the parentheses that the passes drop group nothing.

## Main results

* `Statement.Clear.readFilter_text` — the filter of a clear statement is read back from its
  text.
* `readFilter_of_build` — so is the filter of both statements of every model that is built.
-/

namespace Listing.Sql

/-! ### Finding the filter -/

/-- The tokens of the **filter** of a statement, if it has one. -/
def filterTokens? (ts : List Token) : Option (List Token) :=
  match ts.dropWhile (· ≠ .word "WHERE") with
  | [] => none
  | _ :: rest => some (rest.takeWhile (·.kind ≠ .clause))

/-- The filter that is **read** in the text of a statement; no answer if it cannot be read. -/
def readFilter (text : String) : Option (Option Expr) :=
  (lex text.toList).bind fun ts =>
    match filterTokens? ts with
    | some ts => (parse ts).map some
    | none => some none

/-- Where there is no `WHERE`, there is no filter. -/
theorem filterTokens?_of_notMem {ts : List Token} (h : .word "WHERE" ∉ ts) :
    filterTokens? ts = none := by
  have hdrop : ts.dropWhile (· ≠ .word "WHERE") = [] := by
    rw [List.dropWhile_eq_nil_iff]
    intro t ht
    exact decide_eq_true fun heq => h (heq ▸ ht)
  rw [filterTokens?, hdrop]

/-- The filter is what stands between `WHERE` and the next clause. -/
theorem filterTokens?_append {head ts tail : List Token} (hhead : .word "WHERE" ∉ head)
    (hts : ∀ t ∈ ts, t.kind ≠ .clause) (htail : ∀ t ∈ tail.head?, t.kind = .clause) :
    filterTokens? (head ++ .word "WHERE" :: (ts ++ tail)) = some ts := by
  have hdrop : (head ++ .word "WHERE" :: (ts ++ tail)).dropWhile (· ≠ .word "WHERE") =
      .word "WHERE" :: (ts ++ tail) := by
    have hpos : ∀ t ∈ head, decide (t ≠ .word "WHERE") :=
      fun t ht => decide_eq_true fun heq => hhead (heq ▸ ht)
    rw [List.dropWhile_append_of_pos hpos]
    simp
  have htake : (ts ++ tail).takeWhile (·.kind ≠ .clause) = ts := by
    rw [List.takeWhile_append_of_pos fun t ht => decide_eq_true (hts t ht)]
    cases tail with
    | nil => simp
    | cons t tail => simp [htail t rfl]
  rw [filterTokens?, hdrop]
  exact congrArg some htake

/-! ### Clear expressions in a statement -/

/-- What holds of commas and of the tokens of each list holds of lists with commas between
them. -/
theorem forall_mem_separated {P : Token → Prop} (hcomma : P (.symbol ",")) {tss : List (List Token)}
    (h : ∀ ts ∈ tss, ∀ t ∈ ts, P t) : ∀ t ∈ separated tss, P t := by
  induction tss with
  | nil => simp [separated]
  | cons ts tss ih =>
    rw [List.forall_mem_cons] at h
    cases tss with
    | nil => simpa [separated] using h.1
    | cons us tss =>
      rw [separated, List.intercalate_cons_cons, List.append_assoc, List.forall_mem_append]
      exact ⟨h.1, List.forall_mem_append.mpr ⟨by simpa using hcomma, ih h.2⟩⟩

/-- A number with a sign begins no clause. -/
theorem kind_ne_clause_signed (negative : Bool) (digits : String) :
    ∀ t ∈ signed negative digits, t.kind ≠ .clause := by
  have hminus : (Token.symbol "-").kind ≠ .clause := by decide
  have hnumber : (Token.number digits).kind ≠ .clause := Token.Kind.noConfusion
  cases negative <;> simp [signed, hminus, hnumber]

/-- Constants begin no clause. -/
theorem Literal.kind_ne_clause (l : Literal) : ∀ t ∈ l.tokens, t.kind ≠ .clause := by
  cases l with
  | boolean b => cases b <;> decide
  | integer n => exact kind_ne_clause_signed _ _
  | float x => exact kind_ne_clause_signed _ _
  | null => decide
  | string s => simp [Literal.tokens, Token.kind]
  | timestamp i =>
    simp only [Literal.tokens, List.forall_mem_cons]
    exact ⟨by decide, by decide, Token.Kind.noConfusion, by decide, by decide, by decide⟩

/-- The name of a function or a type is plain. -/
theorem isPlainName_of_isTypeName {name : String} (h : IsTypeName name) : isPlainName name := by
  rw [isPlainName, List.all_eq_true]
  intro w hw
  have hword := h w hw
  rw [isOrdinary, Bool.and_eq_true, String.toList_ofList] at hword
  exact hword.1

/-- It begins no clause. -/
theorem kind_ne_clause_wordsOf {name : String} (h : IsTypeName name) :
    ∀ t ∈ wordsOf name, t.kind ≠ .clause := by
  intro t ht
  obtain ⟨w, hw, rfl⟩ := List.mem_map.mp ht
  rw [kind_of_isOrdinary (h w hw)]
  exact Token.Kind.noConfusion

/-- What is between parentheses begins no clause if no part of it does. -/
theorem kind_ne_clause_parenthesized {ts : List Token} (h : ∀ t ∈ ts, t.kind ≠ .clause) :
    ∀ t ∈ .symbol "(" :: ts ++ [.symbol ")"], t.kind ≠ .clause := by
  rw [List.cons_append, List.forall_mem_cons, List.forall_mem_append]
  exact ⟨by decide, h, by decide⟩

namespace Expr

mutual

/-- A **clear** expression is plain. -/
theorem Clear.isPlain : ∀ {e : Expr}, e.Clear → e.isPlain
  | column _, _ => rfl
  | literal _, h => h
  | binary _ _ _, h => by rw [Expr.isPlain, h.1.1.isPlain, h.2.1.isPlain]; rfl
  | not e, h => by rw [Expr.isPlain, h.1.isPlain]
  | nested e, h => by rw [Expr.isPlain, Clear.isPlain (e := e) h]
  | isNull e _, h => by rw [Expr.isPlain, h.1.isPlain]
  | call name args, ⟨hname, hargs⟩ => by
    have hplain : areAllPlain args := by
      rcases hargs with rfl | hargs
      · rfl
      · exact hargs.areAllPlain
    rw [Expr.isPlain, isPlainName_of_isTypeName (isTypeName_of_isOrdinary hname), hplain]
    rfl
  | inList e items _, ⟨⟨he, _⟩, _, hitems⟩ => by
    rw [Expr.isPlain, he.isPlain, hitems.areAllPlain]
    rfl
  | cast e type, ⟨he, htype⟩ => by
    rw [Expr.isPlain, he.isPlain, isPlainName_of_isTypeName htype]
    rfl

/-- Clear expressions are plain. -/
theorem AllClear.areAllPlain : ∀ {es : List Expr}, AllClear es → areAllPlain es
  | [], _ => rfl
  | _ :: _, ⟨he, hes⟩ => by rw [Expr.areAllPlain, he.isPlain, hes.areAllPlain]; rfl

end

mutual

/-- No token of a clear expression begins a **clause**. -/
theorem Clear.kind_ne_clause : ∀ {e : Expr}, e.Clear → ∀ t ∈ e.tokens, t.kind ≠ .clause
  | column _, _ => by simp [tokens, Token.kind]
  | literal l, _ => l.kind_ne_clause
  | binary left op right, ⟨⟨hl, _⟩, hr, _⟩ => by
    have hop : op.token.kind ≠ .clause := by simp [BinaryOp.kind_token]
    rw [tokens, List.forall_mem_append, List.forall_mem_cons]
    exact ⟨hl.kind_ne_clause, hop, hr.kind_ne_clause⟩
  | not e, ⟨he, _⟩ => by
    rw [tokens, List.forall_mem_cons]
    exact ⟨by decide, he.kind_ne_clause⟩
  | nested e, he => kind_ne_clause_parenthesized (Clear.kind_ne_clause (e := e) he)
  | isNull e negated, ⟨he, _⟩ => by
    rw [tokens, List.forall_mem_append]
    exact ⟨he.kind_ne_clause, by cases negated <;> decide⟩
  | call name args, ⟨hname, hargs⟩ => by
    have hargs : ∀ t ∈ separated (tokenLists args), t.kind ≠ .clause := by
      rcases hargs with rfl | hargs
      · decide
      · exact forall_mem_separated (by decide) hargs.kind_ne_clause
    rw [tokens, List.append_assoc, List.forall_mem_append]
    exact ⟨kind_ne_clause_wordsOf (isTypeName_of_isOrdinary hname),
      kind_ne_clause_parenthesized hargs⟩
  | inList e items negated, ⟨⟨he, _⟩, _, hitems⟩ => by
    have hitems := forall_mem_separated (by decide) hitems.kind_ne_clause
    rw [tokens, List.append_assoc, List.append_assoc, List.forall_mem_append,
      List.forall_mem_append]
    exact ⟨he.kind_ne_clause, by cases negated <;> decide, kind_ne_clause_parenthesized hitems⟩
  | cast e type, ⟨he, htype⟩ => by
    have hinside : ∀ t ∈ e.tokens ++ .word "AS" :: wordsOf type, t.kind ≠ .clause := by
      rw [List.forall_mem_append, List.forall_mem_cons]
      exact ⟨he.kind_ne_clause, by decide, kind_ne_clause_wordsOf htype⟩
    have htokens : (cast e type).tokens = .word "CAST" ::
        (.symbol "(" :: (e.tokens ++ .word "AS" :: wordsOf type) ++ [.symbol ")"]) := by
      simp [tokens]
    rw [htokens, List.forall_mem_cons]
    exact ⟨by decide, kind_ne_clause_parenthesized hinside⟩

/-- No token of clear expressions begins a clause. -/
theorem AllClear.kind_ne_clause : ∀ {es : List Expr}, AllClear es →
    ∀ ts ∈ tokenLists es, ∀ t ∈ ts, t.kind ≠ .clause
  | [], _ => by simp [tokenLists]
  | _ :: _, ⟨he, hes⟩ => by
    rw [tokenLists, List.forall_mem_cons]
    exact ⟨he.kind_ne_clause, hes.kind_ne_clause⟩

end

end Expr

/-! ### Clear statements -/

/-- A selected item that is plain and begins no clause. -/
structure Item.Clear (item : Item) : Prop where
  /-- It is plain. -/
  plain : item.isPlain
  /-- None of its tokens begins a clause. -/
  kind_ne_clause : ∀ t ∈ item.tokens, t.kind ≠ .clause

/-- A **clear** statement. -/
structure Statement.Clear (s : Statement) : Prop where
  /-- So are its items. -/
  items : ∀ item ∈ s.items, item.Clear
  /-- So is its filter. -/
  filter : ∀ e ∈ s.filter, e.Clear
  /-- So are the keys of its order. -/
  order : ∀ k ∈ s.order, k.expr.Clear
  /-- So is the largest number of rows. -/
  limit : ∀ e ∈ s.limit, e.Clear
  /-- So is the number of rows in front. -/
  offset : ∀ e ∈ s.offset, e.Clear

/-- A clear expression under another name is a clear item. -/
theorem Expr.Clear.item {e : Expr} (h : e.Clear) (name : String) :
    (Item.expr e (some name)).Clear := by
  refine ⟨h.isPlain, ?_⟩
  rw [Item.tokens, List.forall_mem_append]
  simp only [List.forall_mem_cons]
  exact ⟨h.kind_ne_clause, by decide, Token.Kind.noConfusion, by simp⟩

namespace Statement

/-- The tokens of a statement in front of its filter. -/
def headTokens (s : Statement) : List Token :=
  .word "SELECT" :: Item.listTokens s.items ++
    s.table.toList.flatMap (fun t => .word "FROM" :: t.tokens)

/-- The tokens of a statement behind its filter. -/
def tailTokens (s : Statement) : List Token :=
  OrderKey.listTokens s.order ++ s.limit.toList.flatMap (fun e => .word "LIMIT" :: e.tokens) ++
    s.offset.toList.flatMap (fun e => .word "OFFSET" :: e.tokens)

variable {s : Statement}

/-- The filter stands between the two. -/
theorem tokens_eq_filter (s : Statement) :
    s.tokens = s.headTokens ++
      (s.filter.toList.flatMap (fun e => .word "WHERE" :: e.tokens) ++ s.tailTokens) := by
  simp [tokens, headTokens, tailTokens]

/-- A clear statement is plain. -/
theorem Clear.isPlain (h : s.Clear) : s.isPlain := by
  simp only [Statement.isPlain, Bool.and_eq_true, List.all_eq_true, Option.all_eq_true]
  exact ⟨⟨⟨⟨fun item hitem => (h.items item hitem).plain, fun e he => (h.filter e he).isPlain⟩,
    fun k hk => (h.order k hk).isPlain⟩, fun e he => (h.limit e he).isPlain⟩,
    fun e he => (h.offset e he).isPlain⟩

/-- In front of the filter of a clear statement there is no `WHERE`. -/
theorem Clear.where_notMem_head (h : s.Clear) : .word "WHERE" ∉ s.headTokens := by
  have hitems : ∀ t ∈ Item.listTokens s.items, t.kind ≠ .clause := by
    unfold Item.listTokens
    split
    · decide
    · refine forall_mem_separated (by decide) fun ts hts => ?_
      obtain ⟨item, hitem, rfl⟩ := List.mem_map.mp hts
      exact (h.items item hitem).kind_ne_clause
  have htable : ∀ t : Table, .word "WHERE" ∉ t.tokens := by
    intro t
    unfold Table.tokens
    split <;> simp
  simp only [headTokens, List.mem_append, List.mem_cons, List.mem_flatMap, not_or]
  refine ⟨⟨by decide, fun hmem => hitems _ hmem rfl⟩, ?_⟩
  rintro ⟨t, -, hmem⟩
  rcases hmem with heq | hmem
  · exact absurd heq (by decide)
  · exact htable t hmem

/-- Behind the filter of a clear statement there is no `WHERE`. -/
theorem Clear.where_notMem_tail (h : s.Clear) : .word "WHERE" ∉ s.tailTokens := by
  have hclause : ∀ (keyword : String) (e? : Option Expr), keyword ≠ "WHERE" →
      (∀ e ∈ e?, e.Clear) →
      .word "WHERE" ∉ e?.toList.flatMap (fun e => .word keyword :: e.tokens) := by
    intro keyword e? hkeyword he? hmem
    obtain ⟨e, he, hmem⟩ := List.mem_flatMap.mp hmem
    rcases List.mem_cons.mp hmem with heq | hmem
    · exact hkeyword (Token.word.inj heq).symm
    · exact (he? e (Option.mem_toList.mp he)).kind_ne_clause _ hmem rfl
  have horder : .word "WHERE" ∉ OrderKey.listTokens s.order := by
    unfold OrderKey.listTokens
    split
    · exact List.not_mem_nil
    have hkeys : ∀ t ∈ separated (s.order.map (·.tokens)), t.kind ≠ .clause := by
      refine forall_mem_separated (by decide) fun ts hts => ?_
      obtain ⟨k, hk, rfl⟩ := List.mem_map.mp hts
      rw [OrderKey.tokens, List.forall_mem_append]
      exact ⟨(h.order k hk).kind_ne_clause, by cases k.ascending <;> decide⟩
    simp only [List.mem_cons, not_or]
    exact ⟨by decide, by decide, fun hmem => hkeys _ hmem rfl⟩
  simp only [tailTokens, List.mem_append, not_or]
  exact ⟨⟨horder, hclause "LIMIT" s.limit (by decide) h.limit⟩,
    hclause "OFFSET" s.offset (by decide) h.offset⟩

/-- What is behind the filter begins with a clause. -/
theorem kind_head_tail (s : Statement) : ∀ t ∈ s.tailTokens.head?, t.kind = .clause := by
  unfold tailTokens OrderKey.listTokens
  intro t ht
  by_cases horder : s.order.isEmpty
  · cases hlimit : s.limit with
    | none =>
      cases hoffset : s.offset with
      | none => simp [horder, hlimit, hoffset] at ht
      | some e =>
        obtain rfl : .word "OFFSET" = t := by simpa [horder, hlimit, hoffset] using ht
        rfl
    | some e =>
      obtain rfl : .word "LIMIT" = t := by simpa [horder, hlimit] using ht
      rfl
  · obtain rfl : .word "ORDER" = t := by simpa [horder] using ht
    rfl

/-- The filter of a **clear** statement is read back from its text. -/
theorem Clear.readFilter_text (h : s.Clear) :
    readFilter s.text = some (s.filter.map Expr.bare) := by
  rw [readFilter, lex_toList_text h.isPlain, Option.bind_some, tokens_eq_filter]
  cases hfilter : s.filter with
  | none =>
    have hnone : .word "WHERE" ∉ s.headTokens ++ s.tailTokens :=
      List.not_mem_append h.where_notMem_head h.where_notMem_tail
    simp [filterTokens?_of_notMem hnone]
  | some e =>
    have he := h.filter e hfilter
    have hsome := filterTokens?_append h.where_notMem_head he.kind_ne_clause s.kind_head_tail
    simp [hsome, he.parse_tokens]

end Statement

/-! ### The statements of a model -/

/-- The count of all columns is a clear item. -/
theorem clear_countItem : (Item.expr (.call "COUNT" [.wildcard]) none).Clear :=
  ⟨by decide, by decide⟩

/-- A field is a clear item. -/
theorem clear_itemOf (f : Field) : (itemOf f).Clear := by
  have htype : IsTypeName "DOUBLE PRECISION" := by decide
  have hcolumn : (columnOf f).Clear := trivial
  have hcast : (Expr.cast (columnOf f) "DOUBLE PRECISION").Clear := ⟨hcolumn, htype⟩
  unfold itemOf
  split
  · exact hcast.item f.name
  · exact hcolumn.item f.name

/-- The keys of an order are clear. -/
theorem clear_orderOf (m : Model) : ∀ k ∈ orderOf m, k.expr.Clear := by
  unfold orderOf
  split
  · rw [List.forall_mem_singleton]
    trivial
  · intro k hk
    obtain ⟨_, -, rfl⟩ := List.mem_map.mp hk
    trivial

/-- The filter of a statement that is clear but for its filter is read back after the standard
passes. What is read has no parentheses, so it is the same with those that the last pass
drops. -/
theorem readFilter_render {s : Statement} (hfilter : ∀ e ∈ s.filter, e.IsFilter)
    (h : ({ s with filter := none } : Statement).Clear) :
    readFilter s.render = some ((relaxFilter (foldFilter s.filter)).map Expr.bare) ∧
      readFilter s.render = some ((foldFilter s.filter).map Expr.bare) := by
  have hclear : (s.simplify Pass.standard).Clear :=
    ⟨h.items, clear_simplified hfilter, h.order, h.limit, h.offset⟩
  have hread := hclear.readFilter_text
  exact ⟨hread, by rw [← map_bare_relaxFilter]; exact hread⟩

/-- The filter of **both statements** of every model that is built is read back from their
texts, and the parentheses that the last pass drops group nothing. -/
theorem readFilter_of_build {ds : List Directive} {maxLimit : Nat} {e : Entity} {m : Model}
    (h : Model.build ds maxLimit e = .ok m) :
    ∃ filter count page, filterOf m = .ok filter ∧ countText m = .ok count ∧
      pageText m = .ok page ∧ ∀ text ∈ [count, page],
        readFilter text = some ((relaxFilter (foldFilter filter)).map Expr.bare) ∧
          readFilter text = some ((foldFilter filter).map Expr.bare) := by
  have hm : m.Sound := sound_of_build h
  have hok := filterOf_eq hm
  have hfilter := isFilter_filterOf hm hok
  generalize Expr.join? .and (filterParts m) = filter at hok hfilter
  refine ⟨filter, _, _, hok, by rw [countText, countStatement, hok]; rfl,
    by rw [pageText, pageStatement, hok]; rfl, ?_⟩
  intro text htext
  rcases List.mem_pair.mp htext with rfl | rfl
  · exact readFilter_render hfilter
      ⟨List.forall_mem_singleton.mpr clear_countItem, by simp, by simp, by simp, by simp⟩
  · refine readFilter_render hfilter ⟨?_, by simp, clear_orderOf m, ?_, ?_⟩
    · intro item hitem
      obtain ⟨f, -, rfl⟩ := List.mem_map.mp hitem
      exact clear_itemOf f
    all_goals
      rintro e ⟨⟩
      exact rfl

/-- The filter of the statements for late invoices, whose parts need no parentheses. -/
theorem readFilter_invoices : ∃ count page,
    countText Sample.model = .ok count ∧ pageText Sample.model = .ok page ∧
      ∀ text ∈ [count, page], readFilter text = some (some
        (.binary
          (.binary
            (.not (.call "COALESCE"
              [.binary (.binary (.column "note") .eq (.string "paid late")) .or
                (.isNull (.column "note") false), .boolean false]))
            .or (.binary (.column "id") .gt (.literal (.integer 5))))
          .and
          (.binary (.call "strpos" [.cast (.column "note") "TEXT", .string "late"]) .gt
            (.literal (.integer 0))))) := by
  obtain ⟨filter, count, page, hfilter, hcount, hpage, hread⟩ :=
    readFilter_of_build Sample.build_asked
  refine ⟨count, page, hcount, hpage, fun text htext => ?_⟩
  rw [(hread text htext).1]
  obtain rfl := Except.ok.inj hfilter
  rfl

end Listing.Sql
