import Listing.Proofs.Sql.Grammar
import Listing.Proofs.Sql.Rendering

/-!
# Expressions That Are Read as They Were Meant

What `parse` reads from the tokens of an expression is the expression without its parentheses
(`Expr.bare`), if the expression is **clear**: each operand holds together in front of and
behind the operator that it belongs to. `Expr.level` says how tightly an expression holds
together in front of what is on its left, and `Expr.bound` how tight an operator on its right
may be, before one of them takes a part of the expression away.

The proof goes through the tree, with the stack of the reader in front of an expression and the
tokens behind it. An operator of the expression ends nothing of the stack because of the level,
and what is behind the expression ends all of its operators because of the bound.

## Main results

* `Expr.Clear.run_tokens` — a clear expression is read in one piece wherever it holds together.
* `Expr.Clear.parse_tokens` — by itself it is read as what it is without its parentheses.
-/

namespace Listing.Sql

open Number (Binary64)

/-! ### What is read -/

/-- A constant as it is **read**. A floating-point number that is whole is read as an integer:
the same number below `2 ^ 53` (`Number.Binary64.wholeNumber_eq`), and one that is rounded to it
everywhere (`Number.Binary64.ofInt_wholeNumber`). A moment of time is a cast. -/
def Literal.bare : Literal → Expr
  | float x => .literal (if x.toInt?.isSome then .integer x.wholeNumber else .float x)
  | timestamp i => .cast (.string i.text) "TIMESTAMPTZ"
  | l => .literal l

namespace Expr

mutual

/-- An expression **without its parentheses**, with its constants as they are read. -/
def bare : Expr → Expr
  | column name => column name
  | literal l => l.bare
  | binary left op right => binary left.bare op right.bare
  | not e => not e.bare
  | call name args => call name (bareAll args)
  | inList e items negated => inList e.bare (bareAll items) negated
  | isNull e negated => isNull e.bare negated
  | cast e type => cast e.bare type
  | wildcard => wildcard
  | nested e => e.bare

/-- Several expressions without their parentheses. -/
def bareAll : List Expr → List Expr
  | [] => []
  | e :: rest => e.bare :: bareAll rest

end

end Expr

/-! ### Clear expressions -/

/-- The level of what no operator takes apart: it is above that of every operator. -/
def closedLevel : Nat := 8

/-- No operator is as tight. -/
theorem BinaryOp.level_lt_closed (op : BinaryOp) : op.level < closedLevel := by
  cases op <;> decide

/-- Each operator has a level. -/
theorem BinaryOp.level_pos (op : BinaryOp) : 0 < op.level := by
  cases op <;> decide

/-- How tight an operator behind the right operand of an operator may be to end the operation. -/
def BinaryOp.bound (op : BinaryOp) : Nat := if op.isChained then op.level else op.level - 1

/-- Whether a word is the name of a function, or a part of the name of a type. -/
def isOrdinary (w : String) : Bool :=
  isPlainWord w.toList && Token.kindOfWord w == .function w

/-- Whether a name is made of such words with one blank between them. -/
def IsTypeName (name : String) : Prop :=
  ∀ w ∈ List.splitOn ' ' name.toList, isOrdinary (String.ofList w)

instance : DecidablePred IsTypeName :=
  fun _ => inferInstanceAs (Decidable (∀ w ∈ _, _))

namespace Expr

/-- How tightly an expression **holds together** in front of what is on its left. -/
def level : Expr → Nat
  | binary left op _ => min op.level left.level
  | inList e _ _ => min (Token.Kind.level .isIn) e.level
  | isNull e _ => min (Token.Kind.level .is) e.level
  | _ => closedLevel

/-- How tight an operator on the right of an expression may be to **leave** it together. -/
def bound : Expr → Nat
  | binary _ op right => min op.bound right.bound
  | not e => min (denialLevel - 1) e.bound
  | _ => closedLevel

mutual

/-- A **clear** expression: one that can be read, and whose operands hold together without more
parentheses than there are. Only as the argument of a function an asterisk can be read. -/
def Clear : Expr → Prop
  | column _ => True
  | literal l => (literal l).isPlain
  | binary left op right =>
    (left.Clear ∧ op.level ≤ left.bound) ∧ right.Clear ∧ op.level < right.level
  | not e => e.Clear ∧ denialLevel < e.level
  | call name args => isOrdinary name ∧ (args = [wildcard] ∨ AllClear args)
  | inList e items _ => (e.Clear ∧ Token.Kind.level .isIn ≤ e.bound) ∧ items ≠ [] ∧ AllClear items
  | isNull e _ => e.Clear ∧ Token.Kind.level .is ≤ e.bound
  | cast e type => e.Clear ∧ IsTypeName type
  | wildcard => False
  | nested e => e.Clear

/-- Several clear expressions. -/
def AllClear : List Expr → Prop
  | [] => True
  | e :: rest => e.Clear ∧ AllClear rest

end

/-- Each expression has a level. -/
theorem level_pos : ∀ e : Expr, 0 < e.level
  | binary left op _ => Nat.lt_min.mpr ⟨op.level_pos, level_pos left⟩
  | inList e _ _ | isNull e _ => Nat.lt_min.mpr ⟨by decide, level_pos e⟩
  | column _ | literal _ | not _ | call _ _ | cast _ _ | wildcard | nested _ => by
    simp only [level]
    decide

end Expr

/-! ### The stack -/

/-- How tightly the operation on top of a stack holds the operand that it waits for. -/
def stackLevel : List Frame → Nat
  | .operand _ op :: _ => op.level
  | .denial :: _ => denialLevel
  | _ => 0

/-- A token that holds its operand **tighter** than the stack does ends nothing of it. -/
theorem reduce_of_lt {stack : List Frame} {e : Expr} {level : Nat} (h : stackLevel stack < level) :
    reduce level stack e = some (stack, e) := by
  match stack with
  | .operand left op :: rest =>
    rw [stackLevel] at h
    rw [reduce, if_neg (by omega), if_neg (by omega)]
  | .denial :: rest =>
    rw [stackLevel] at h
    rw [reduce, if_neg (by omega)]
  | [] | .group :: _ | .list _ _ :: _ | .cast :: _ => rfl

/-- A token within the bound of an operator **ends** the operation that waits on the stack. -/
theorem reduce_operand {stack : List Frame} {left e : Expr} {op : BinaryOp} {level : Nat}
    (h : level ≤ op.bound) :
    reduce level (.operand left op :: stack) e = reduce level stack (.binary left op e) := by
  have hlevel : level < op.level ∨ level = op.level ∧ op.isChained := by
    cases op <;> simp_all [BinaryOp.bound, BinaryOp.level, BinaryOp.isChained] <;> omega
  rw [reduce, if_pos hlevel]

/-- A token that holds its operand less than `NOT` does ends a denial. -/
theorem reduce_denial {stack : List Frame} {e : Expr} {level : Nat} (h : level ≤ denialLevel - 1) :
    reduce level (.denial :: stack) e = reduce level stack (.not e) := by
  have hlevel : level < denialLevel := Nat.lt_of_le_of_lt h (by decide)
  rw [reduce, if_pos hlevel]

/-! ### Tokens are read -/

section Run

variable {stack : List Frame} {e : Expr} {ts : List Token}

/-- The kind of the token of an operator. -/
theorem BinaryOp.kind_token (op : BinaryOp) : op.token.kind = .operator op := by
  cases op <;> rfl

/-- An operator between two operands ends nothing that holds the left one less. -/
theorem run_operator {op : BinaryOp} (h : stackLevel stack < op.level) :
    (State.got stack e).run (op.token :: ts) =
      (State.want (.operand e op :: stack)).run ts := by
  have hlevel : op.token.kind.level = op.level := by rw [BinaryOp.kind_token]; rfl
  rw [State.run, State.step, hlevel, reduce_of_lt h, BinaryOp.kind_token]
  rfl

/-- A closing parenthesis ends what the opening one began. -/
theorem run_group : (State.got (.group :: stack) e).run (.symbol ")" :: ts) =
    (State.got stack e).run ts := rfl

/-- A comma ends an item of a list. -/
theorem run_comma {of : Listed} {items : List Expr} :
    (State.got (.list of items :: stack) e).run (.symbol "," :: ts) =
      (State.want (.list of (items ++ [e]) :: stack)).run ts := rfl

/-- A closing parenthesis ends a list. -/
theorem run_list {of : Listed} {items : List Expr} :
    (State.got (.list of items :: stack) e).run (.symbol ")" :: ts) =
      (State.got stack (of.close (items ++ [e]))).run ts := rfl

/-- `IS NULL` and `IS NOT NULL` end nothing that holds the operand less. -/
theorem run_isNull {negated : Bool} (h : stackLevel stack < Token.Kind.level .is) :
    (State.got stack e).run ((if negated then [.word "IS", .word "NOT", .word "NULL"]
      else [.word "IS", .word "NULL"]) ++ ts) = (State.got stack (.isNull e negated)).run ts := by
  have hlevel : (Token.word "IS").kind.level = Token.Kind.level .is := rfl
  cases negated with
  | false =>
    rw [if_neg Bool.false_ne_true, List.cons_append, State.run, State.step, hlevel,
      reduce_of_lt h]
    rfl
  | true =>
    rw [if_pos rfl, List.cons_append, State.run, State.step, hlevel, reduce_of_lt h]
    rfl

/-- `IN` and `NOT IN` end nothing that holds the operand less. -/
theorem run_inList {negated : Bool} (h : stackLevel stack < Token.Kind.level .isIn) :
    (State.got stack e).run ((if negated then [.word "NOT", .word "IN"] else [.word "IN"]) ++
        .symbol "(" :: ts) =
      (State.want (.list (.inList e negated) [] :: stack)).run ts := by
  cases negated with
  | false =>
    have hlevel : (Token.word "IN").kind.level = Token.Kind.level .isIn := rfl
    rw [if_neg Bool.false_ne_true, List.cons_append, State.run, State.step, hlevel,
      reduce_of_lt h]
    rfl
  | true =>
    have hlevel : (Token.word "NOT").kind.level = Token.Kind.level .isIn := rfl
    rw [if_pos rfl, List.cons_append, State.run, State.step, hlevel, reduce_of_lt h]
    rfl

/-! ### Words -/

/-- The kind of a word that is no keyword. -/
theorem kind_of_isOrdinary {w : String} (h : isOrdinary w) :
    (Token.word w).kind = .function w := by
  rw [isOrdinary, Bool.and_eq_true, beq_iff_eq] at h
  exact h.2

/-- A word has no blank. -/
theorem space_notMem_of_isPlainWord {w : List Char} (h : isPlainWord w) : ' ' ∉ w := by
  cases w with
  | nil => exact List.not_mem_nil
  | cons c w =>
    rw [isPlainWord, Bool.and_eq_true, List.all_eq_true] at h
    intro hmem
    rcases List.mem_cons.mp hmem with rfl | hmem
    · exact absurd h.1 (by decide)
    · exact absurd (h.2 _ hmem) (by decide)

/-- The name of a function is one word. -/
theorem splitOn_of_isOrdinary {name : String} (h : isOrdinary name) :
    List.splitOn ' ' name.toList = [name.toList] := by
  rw [isOrdinary, Bool.and_eq_true] at h
  exact List.splitOn_eq_singleton (space_notMem_of_isPlainWord h.1)

/-- The name of a function could be the name of a type. -/
theorem isTypeName_of_isOrdinary {name : String} (h : isOrdinary name) : IsTypeName name := by
  rw [IsTypeName, splitOn_of_isOrdinary h, List.forall_mem_singleton, String.ofList_toList]
  exact h

/-- The name of a **function** and an opening parenthesis begin a list. -/
theorem run_function {name : String} (h : isOrdinary name) :
    (State.want stack).run (wordsOf name ++ .symbol "(" :: ts) =
      (State.want (.list (.call name) [] :: stack)).run ts := by
  rw [wordsOf, splitOn_of_isOrdinary h, List.map_singleton, String.ofList_toList,
    List.singleton_append, State.run, State.step, kind_of_isOrdinary h]
  rfl

/-- The words of a type are read up to the parenthesis that ends the cast. -/
theorem run_typing {ws : List (List Char)} (h : ∀ w ∈ ws, isOrdinary (String.ofList w))
    (words : List String) (hne : words ++ ws.map String.ofList ≠ []) :
    (State.typing stack e words).run
        (ws.map (fun w => .word (String.ofList w)) ++ .symbol ")" :: ts) =
      (State.got stack (.cast e (" ".intercalate (words ++ ws.map String.ofList)))).run ts := by
  induction ws generalizing words with
  | nil =>
    simp only [List.map_nil, List.append_nil] at hne ⊢
    simp [State.run, State.step, hne, show (Token.symbol ")").kind = .closing from rfl]
  | cons w ws ih =>
    rw [List.forall_mem_cons] at h
    rw [List.map_cons, List.cons_append, State.run, State.step, kind_of_isOrdinary h.1]
    have hrest := ih h.2 (words ++ [String.ofList w]) (by simp)
    simpa using hrest

/-- The words of a name with blanks between them are the name. -/
theorem intercalate_words (name : String) :
    " ".intercalate ((List.splitOn ' ' name.toList).map String.ofList) = name := by
  rw [← String.toList_inj, String.toList_intercalate, List.map_map]
  simp

/-- `AS` and a **type** end a cast. -/
theorem run_as {type : String} (h : IsTypeName type) :
    (State.got (.cast :: stack) e).run (.word "AS" :: (wordsOf type ++ .symbol ")" :: ts)) =
      (State.got stack (.cast e type)).run ts := by
  refine (run_typing h [] (by simp)).trans ?_
  rw [List.nil_append, intercalate_words]

/-! ### Constants -/

/-- An integer is read as itself. -/
theorem numeral?_integer (n : Int) :
    numeral? (n < 0) (toString n.natAbs) = some (.integer n) := by
  have hdigits : ∀ c ∈ Nat.toDigits 10 n.natAbs, c.isDigit :=
    fun _ hc => Nat.isDigit_of_mem_toDigits (by decide) (by decide) hc
  have hpoint : '.' ∉ Nat.toDigits 10 n.natAbs := fun hmem => absurd (hdigits _ hmem) (by decide)
  have hvalue := Number.decimal?_eq Nat.toDigits_ne_nil hdigits
  rw [Nat.ofDigitChars_toDigits (by decide) (by decide)] at hvalue
  have htext : (toString n.natAbs).toList = Nat.toDigits 10 n.natAbs := by simp
  rw [numeral?, htext, if_neg hpoint, hvalue, Option.map_some]
  congr
  simp only [decide_eq_true_eq]
  split <;> omega

/-- A finite number without its sign is read as a whole number or as itself. -/
theorem numeral?_magnitudeText {x : Binary64} (hx : x.isFinite) :
    numeral? x.isNegative (magnitudeText x) =
      some (if x.toInt?.isSome then .integer x.wholeNumber else .float x) := by
  rw [numeral?, magnitudeText, String.toList_ofList, Binary64.wholeNumber]
  by_cases hzero : x.isZero
  · simp only [if_pos hzero, if_pos (Binary64.isSome_toInt?_of_isZero hx hzero)]
    cases x.isNegative <;> rfl
  simp only [if_neg hzero, Binary64.point_mem_positional_iff hzero,
    Binary64.isSome_toInt?_iff hx hzero]
  by_cases hlast : 0 ≤ x.shortest.last
  · rw [if_neg (Int.not_lt.mpr hlast), if_pos hlast, Binary64.decimal?_positional hzero hlast]
    rfl
  · have hread := Binary64.written?_positional hx hzero (Int.not_le.mp hlast)
    obtain ⟨w, hw, hnearest⟩ := Option.map_eq_some_iff.mp hread
    rw [if_pos (Int.not_le.mp hlast), if_neg hlast, hw, Option.map_some, hnearest]

/-- A number with a **sign** is one constant. -/
theorem run_signed {negative : Bool} {digits : String} {l : Literal}
    (h : numeral? negative digits = some l) :
    (State.want stack).run (signed negative digits ++ ts) =
      (State.got stack (.literal l)).run ts := by
  cases negative with
  | false =>
    simp [signed, State.run, State.step, Token.kind, State.wanting, h]
  | true =>
    simp [signed, State.run, State.step, Token.kind, Token.kindOfSymbol, State.wanting, h]

/-- A **constant** is read in one piece. -/
theorem Literal.run_tokens {l : Literal} (h : (Expr.literal l).isPlain) :
    (State.want stack).run (l.tokens ++ ts) = (State.got stack l.bare).run ts := by
  cases l with
  | null => rfl
  | boolean b => cases b <;> rfl
  | integer n => exact run_signed (numeral?_integer n)
  | float x => exact run_signed (numeral?_magnitudeText h)
  | string s => rfl
  | timestamp i =>
    have htype : IsTypeName "TIMESTAMPTZ" := by decide
    exact run_as htype

end Run

/-! ### Expressions are read -/

namespace Expr

mutual

/-- A **clear** expression is read in one piece, wherever what is in front of it and behind it
does not take it apart. -/
theorem Clear.run_tokens : ∀ {e : Expr}, e.Clear → ∀ (stack : List Frame) (ts : List Token),
    stackLevel stack < e.level → levelOf ts ≤ e.bound →
      (State.want stack).run (e.tokens ++ ts) = (State.got stack e.bare).run ts
  | column name, _, stack, ts, _, _ => rfl
  | literal l, h, stack, ts, _, _ => Literal.run_tokens h
  | binary left op right, ⟨⟨hl, hleft⟩, hr, hright⟩, stack, ts, hstack, hts => by
    obtain ⟨hop, hstack⟩ := Nat.lt_min.mp hstack
    obtain ⟨hbound, hts⟩ := Nat.le_min.mp hts
    have hlevel : levelOf (op.token :: (right.tokens ++ ts)) = op.level := by
      rw [levelOf, BinaryOp.kind_token]
      rfl
    rw [tokens, List.append_assoc, List.cons_append,
      hl.run_tokens _ _ hstack (hlevel ▸ hleft), run_operator hop,
      hr.run_tokens (.operand left.bare op :: stack) _ hright hts,
      run_got_of_reduce (reduce_operand hbound), bare]
  | not e, ⟨he, hlevel⟩, stack, ts, _, hts => by
    obtain ⟨hdenial, hts⟩ := Nat.le_min.mp hts
    have hrun := he.run_tokens (.denial :: stack) _ hlevel hts
    rw [run_got_of_reduce (reduce_denial hdenial)] at hrun
    exact hrun
  | call name args, ⟨hname, hargs⟩, stack, ts, _, _ => by
    simp only [tokens, List.append_assoc, List.cons_append, List.nil_append]
    rw [run_function hname]
    match args, hargs with
    | _, .inl rfl => rfl
    | [], .inr _ => rfl
    | e :: es, .inr hargs =>
      rw [hargs.run_separated (List.cons_ne_nil e es), List.nil_append]
      rfl
  | inList e items negated, ⟨⟨he, hbound⟩, hne, hitems⟩, stack, ts, hstack, _ => by
    obtain ⟨hin, hstack⟩ := Nat.lt_min.mp hstack
    have hrun := hitems.run_separated hne (.inList e.bare negated) [] stack ts
    have hlevel : levelOf ((if negated then [.word "NOT", .word "IN"] else [.word "IN"]) ++
        .symbol "(" :: (separated (tokenLists items) ++ .symbol ")" :: ts)) =
          Token.Kind.level .isIn := by
      cases negated <;> rfl
    simp only [tokens, List.append_assoc, List.cons_append, List.nil_append]
    rw [he.run_tokens _ _ hstack (hlevel ▸ hbound), run_inList hin, hrun]
    rfl
  | isNull e negated, ⟨he, hbound⟩, stack, ts, hstack, _ => by
    obtain ⟨his, hstack⟩ := Nat.lt_min.mp hstack
    have hlevel : levelOf ((if negated then [.word "IS", .word "NOT", .word "NULL"]
        else [.word "IS", .word "NULL"]) ++ ts) = Token.Kind.level .is := by
      cases negated <;> rfl
    rw [tokens, List.append_assoc, he.run_tokens _ _ hstack (hlevel ▸ hbound), run_isNull his, bare]
  | cast e type, ⟨he, htype⟩, stack, ts, _, _ => by
    have hrun := he.run_tokens (.cast :: stack) (.word "AS" :: (wordsOf type ++ .symbol ")" :: ts))
      e.level_pos (Nat.zero_le _)
    rw [run_as htype] at hrun
    simp only [tokens, List.append_assoc, List.cons_append, List.nil_append]
    exact hrun
  | nested e, he, stack, ts, _, _ => by
    have hrun := Clear.run_tokens (e := e) he (.group :: stack) (.symbol ")" :: ts) e.level_pos
      (Nat.zero_le _)
    rw [run_group] at hrun
    simp only [tokens, List.append_assoc, List.cons_append, List.nil_append]
    exact hrun

/-- **Clear expressions** with commas between them are read one by one up to the parenthesis
that ends the list. -/
theorem AllClear.run_separated : ∀ {es : List Expr}, AllClear es → es ≠ [] →
    ∀ (of : Listed) (items : List Expr) (stack : List Frame) (ts : List Token),
      (State.want (.list of items :: stack)).run
          (separated (tokenLists es) ++ .symbol ")" :: ts) =
        (State.got stack (of.close (items ++ bareAll es))).run ts
  | [], _, hne, _, _, _, _ => absurd rfl hne
  | [e], ⟨he, _⟩, _, of, items, stack, ts => by
    have hrun := he.run_tokens (.list of items :: stack) (.symbol ")" :: ts) e.level_pos
      (Nat.zero_le _)
    rw [run_list] at hrun
    simpa [tokenLists, separated, bareAll] using hrun
  | e :: e' :: es, ⟨he, hes⟩, _, of, items, stack, ts => by
    have hrun := he.run_tokens (.list of items :: stack)
      (.symbol "," :: (separated (tokenLists (e' :: es)) ++ .symbol ")" :: ts)) e.level_pos
      (Nat.zero_le _)
    rw [run_comma, hes.run_separated (by simp)] at hrun
    simpa [tokenLists, separated, List.intercalate_cons_cons, bareAll] using hrun

end

/-- A **clear** expression is read as what it is without its parentheses. -/
theorem Clear.parse_tokens {e : Expr} (h : e.Clear) : parse e.tokens = some e.bare := by
  have hrun := h.run_tokens [] [] e.level_pos (Nat.zero_le _)
  rw [List.append_nil] at hrun
  exact hrun

/-- What is not clear is taken apart: `IS NULL` does not hold its operand as tightly as `=`. -/
example : parse (binary (column "y") .eq (isNull (column "x") false)).tokens =
    some (isNull (binary (column "y") .eq (column "x")) false) := rfl

end Expr

end Listing.Sql
