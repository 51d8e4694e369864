import Listing.Proofs.Sql.Phrase

/-!
# Written Expressions Are Read in One Way Only

What an expression is written as may be read as something else than the expression, but it is
read as the expression without its parentheses in one way only: the words between its operands
are found again by counting (`joints`), and parentheses around the whole by what they close
(`Balanced`). So it is read as what it was meant to be only if it is clear: only then there are
phrases in all places.

## Main results

* `Phrase.joints_eq`, `Expr.joints_bare` — how many words stand between operands does not hang on
  how an expression is written.
* `Expr.clear_of_phrase` — an expression that may be read from its own tokens is clear.
* `Expr.parse_tokens_iff` — an expression is read as it was meant if and only if it is clear.
-/

namespace Listing.Sql

/-! ### Open parentheses -/

/-- How many parentheses are open behind a token, if `n` are in front of it; no answer if it
closes one that was not open. -/
def Token.Kind.openBehind (n : Nat) : Token.Kind → Option Nat
  | opening => some (n + 1)
  | closing => if n = 0 then none else some (n - 1)
  | _ => some n

/-- How many parentheses are **open** behind some tokens. -/
def openBehind (n : Nat) (ks : List Token.Kind) : Option Nat := ks.foldlM Token.Kind.openBehind n

/-- **Balanced** tokens close the parentheses that they open, and no others. -/
def Balanced (ks : List Token.Kind) : Prop := openBehind 0 ks = some 0

/-- Parentheses that are open besides stay open. -/
theorem openBehind_add {n m : Nat} {ks : List Token.Kind} (h : openBehind n ks = some m)
    (besides : Nat) : openBehind (n + besides) ks = some (m + besides) := by
  induction ks generalizing n with
  | nil =>
    cases h
    rfl
  | cons k ks ih =>
    obtain ⟨n', hk, hks⟩ := Option.bind_eq_some_iff.mp h
    have hstep : k.openBehind (n + besides) = some (n' + besides) := by
      unfold Token.Kind.openBehind at hk ⊢
      split at hk <;> simp_all <;> omega
    show (k.openBehind (n + besides)).bind (openBehind · ks) = _
    rw [hstep]
    exact ih hks

/-- Tokens are read one after the other. -/
theorem openBehind_append (n : Nat) (ks ms : List Token.Kind) :
    openBehind n (ks ++ ms) = (openBehind n ks).bind (openBehind · ms) :=
  List.foldlM_append

namespace Balanced

variable {ks ms : List Token.Kind}

/-- Balanced tokens change nothing. -/
theorem openBehind (h : Balanced ks) (n : Nat) : openBehind n ks = some n := by
  simpa using openBehind_add h n

/-- Balanced tokens behind balanced tokens are balanced. -/
theorem append (h : Balanced ks) (h' : Balanced ms) : Balanced (ks ++ ms) := by
  rw [Balanced, openBehind_append, h, Option.bind_some, h']

/-- Balanced tokens **in parentheses** are balanced. -/
theorem parenthesized (h : Balanced ks) : Balanced (.opening :: (ks ++ [.closing])) := by
  show Sql.openBehind 1 (ks ++ [.closing]) = some 0
  rw [openBehind_append, h.openBehind]
  rfl

/-- Tokens without parentheses are balanced. -/
theorem of_forall (h : ∀ k ∈ ks, k ≠ .opening ∧ k ≠ .closing) : Balanced ks := by
  induction ks with
  | nil => rfl
  | cons k ks ih =>
    rw [List.forall_mem_cons] at h
    have hk : k.openBehind 0 = some 0 := by
      unfold Token.Kind.openBehind
      split <;> simp_all
    show (k.openBehind 0).bind (Sql.openBehind · ks) = _
    rw [hk]
    exact ih h.2

/-- A cast of balanced tokens is balanced. -/
theorem cast (h : Balanced ks) (h' : Balanced ms) :
    Balanced (.cast :: .opening :: (ks ++ .as :: (ms ++ [.closing]))) := by
  have hinside : Balanced (ks ++ .as :: ms) := h.append h'
  have hwhole := hinside.parenthesized
  rw [List.append_assoc, List.cons_append] at hwhole
  exact hwhole

/-- What is in parentheses as a whole is not made of **two parts** that are balanced. -/
theorem not_append (h : Balanced ks) {front back : List Token.Kind} (hfront : Balanced front)
    (hne : front ≠ []) (hne' : back ≠ []) : front ++ back ≠ .opening :: (ks ++ [.closing]) := by
  intro heq
  -- the front begins with the first parenthesis, which is still open where the front ends
  obtain ⟨k, front, rfl⟩ := List.exists_cons_of_ne_nil hne
  obtain ⟨back, k', rfl⟩ := (List.eq_nil_or_concat back).resolve_left hne'
  simp only [List.cons_append, List.cons.injEq, List.concat_eq_append] at heq
  obtain ⟨rfl, heq⟩ := heq
  obtain ⟨rfl, -⟩ := List.append_inj' ((List.append_assoc ..).trans heq) rfl
  rw [Balanced, openBehind_append] at h
  obtain ⟨n, hn, -⟩ := Option.bind_eq_some_iff.mp h
  have hopen : Sql.openBehind 1 front = some (n + 1) := openBehind_add hn 1
  rw [show Sql.openBehind 1 front = some 0 from hfront] at hopen
  cases hopen

end Balanced

/-! ### The kinds of the tokens of an expression -/

/-- The kinds of the words of a name. -/
def nameKinds (name : String) : List Token.Kind := (wordsOf name).map Token.kind

namespace Expr

/-- The **kinds** of the tokens that an expression is written as. -/
def kinds (e : Expr) : List Token.Kind := e.tokens.map Token.kind

/-- The kinds of the tokens of expressions with commas between them. -/
def kindsAll (es : List Expr) : List Token.Kind := (separated (tokenLists es)).map Token.kind

variable {e left right : Expr} {op : BinaryOp} {name type : String} {es : List Expr}
  {negated : Bool}

@[simp] theorem kinds_column : (column name).kinds = [.column name] := by
  rw [kinds, tokens]
  rfl

@[simp] theorem kinds_wildcard : wildcard.kinds = [.star] := by
  rw [kinds, tokens]
  rfl

@[simp] theorem kinds_binary :
    (binary left op right).kinds = left.kinds ++ .operator op :: right.kinds := by
  rw [kinds, tokens, List.map_append, List.map_cons, BinaryOp.kind_token]
  rfl

@[simp] theorem kinds_not : (not e).kinds = .not :: e.kinds := by
  rw [kinds, tokens]
  rfl

@[simp] theorem kinds_nested : (nested e).kinds = .opening :: (e.kinds ++ [.closing]) := by
  rw [kinds, tokens, List.cons_append, List.map_cons, List.map_append]
  rfl

@[simp] theorem kinds_isNull : (isNull e negated).kinds = e.kinds ++ testKinds negated := by
  rw [kinds, tokens, List.map_append]
  cases negated <;> rfl

@[simp] theorem kinds_inList : (inList e es negated).kinds =
    e.kinds ++ (listKinds negated ++ .opening :: (kindsAll es ++ [.closing])) := by
  simp only [kinds, kindsAll, tokens, List.map_append, List.map_cons, List.append_assoc]
  cases negated <;> rfl

@[simp] theorem kinds_call :
    (call name es).kinds = nameKinds name ++ .opening :: (kindsAll es ++ [.closing]) := by
  simp only [kinds, kindsAll, nameKinds, tokens, List.map_append, List.map_cons,
    List.append_assoc]
  rfl

@[simp] theorem kinds_cast : (cast e type).kinds =
    .cast :: .opening :: (e.kinds ++ .as :: (nameKinds type ++ [.closing])) := by
  simp only [kinds, nameKinds, tokens, List.map_append, List.map_cons, List.append_assoc,
    List.cons_append]
  rfl

@[simp] theorem kindsAll_nil : kindsAll [] = [] := rfl

@[simp] theorem kindsAll_singleton : kindsAll [e] = e.kinds := by
  simp [kindsAll, tokenLists, separated, kinds]

@[simp] theorem kindsAll_cons_cons {e' : Expr} :
    kindsAll (e :: e' :: es) = e.kinds ++ .comma :: kindsAll (e' :: es) := by
  simp only [kindsAll, tokenLists, separated, kinds, List.intercalate_cons_cons, List.map_append,
    List.append_assoc]
  rfl

end Expr

/-! ### Parentheses around the whole -/

/-- The words of a name are balanced. -/
theorem balanced_nameKinds (name : String) : Balanced (nameKinds name) := by
  refine .of_forall fun k hk => ?_
  obtain ⟨t, ht, rfl⟩ := List.mem_map.mp hk
  obtain ⟨w, -, rfl⟩ := List.mem_map.mp ht
  exact Token.kindOfWord_ne _

/-- A name begins with a word. -/
theorem exists_nameKinds_eq_cons (name : String) :
    ∃ k ks, nameKinds name = k :: ks ∧ k ≠ .opening := by
  obtain ⟨w, ws, hws⟩ := List.exists_cons_of_ne_nil (List.splitOn_ne_nil ' ' name.toList)
  refine ⟨_, _, by rw [nameKinds, wordsOf, hws]; rfl, (Token.kindOfWord_ne _).1⟩

/-- A test for `NULL` has tokens. -/
theorem testKinds_ne_nil (negated : Bool) : testKinds negated ≠ [] := by
  cases negated <;> exact List.cons_ne_nil _ _

/-- They are balanced. -/
theorem balanced_testKinds (negated : Bool) : Balanced (testKinds negated) := by
  cases negated <;> rfl

/-- What is in front of a list is balanced. -/
theorem balanced_listKinds (negated : Bool) : Balanced (listKinds negated) := by
  cases negated <;> rfl

/-- A constant is balanced, and it does not begin with a parenthesis. -/
theorem Literal.balanced_kinds (l : Literal) :
    Balanced (l.tokens.map Token.kind) ∧
      ∃ k ks, l.tokens.map Token.kind = k :: ks ∧ k ≠ .opening := by
  have hsigned : ∀ (negative : Bool) (digits : String),
      Balanced ((signed negative digits).map Token.kind) ∧
        ∃ k ks, (signed negative digits).map Token.kind = k :: ks ∧ k ≠ .opening := by
    intro negative digits
    cases negative
    · exact ⟨rfl, _, _, rfl, Token.Kind.noConfusion⟩
    · exact ⟨rfl, _, _, rfl, by decide⟩
  cases l with
  | integer n => exact hsigned _ _
  | float x => exact hsigned _ _
  | null => exact ⟨rfl, _, _, rfl, by decide⟩
  | boolean b => cases b <;> exact ⟨rfl, _, _, rfl, by decide⟩
  | string s => exact ⟨rfl, _, _, rfl, Token.Kind.noConfusion⟩
  | timestamp i => exact ⟨rfl, _, _, rfl, by decide⟩

namespace Expr

/-- An expression is written as at least one token. -/
theorem kinds_ne_nil : ∀ e : Expr, e.kinds ≠ []
  | literal l => by
    obtain ⟨-, k, ks, hks, -⟩ := l.balanced_kinds
    rw [kinds, tokens, hks]
    exact List.cons_ne_nil k ks
  | column _ | wildcard | binary _ _ _ | not _ | nested _ | call _ _ | cast _ _ => by simp
  | isNull _ negated => by simp [testKinds_ne_nil negated]
  | inList _ _ _ => by simp

mutual

/-- The tokens of an expression are **balanced**. -/
theorem balanced_kinds : ∀ e : Expr, Balanced e.kinds
  | literal l => by
    rw [kinds, tokens]
    exact l.balanced_kinds.1
  | column _ | wildcard => by
    simp only [kinds_column, kinds_wildcard]
    rfl
  | binary left op right => by
    rw [kinds_binary]
    exact (balanced_kinds left).append (balanced_kinds right)
  | not e => by
    rw [kinds_not]
    exact balanced_kinds e
  | nested e => by
    rw [kinds_nested]
    exact (balanced_kinds e).parenthesized
  | isNull e negated => by
    rw [kinds_isNull]
    exact (balanced_kinds e).append (balanced_testKinds negated)
  | inList e items negated => by
    have hitems := (balanced_kindsAll items).parenthesized
    rw [kinds_inList]
    exact (balanced_kinds e).append ((balanced_listKinds negated).append hitems)
  | call name args => by
    rw [kinds_call]
    exact (balanced_nameKinds name).append (balanced_kindsAll args).parenthesized
  | cast e type => by
    rw [kinds_cast]
    exact (balanced_kinds e).cast (balanced_nameKinds type)

/-- So are those of expressions with commas between them. -/
theorem balanced_kindsAll : ∀ es : List Expr, Balanced (kindsAll es)
  | [] => rfl
  | [e] => by
    rw [kindsAll_singleton]
    exact balanced_kinds e
  | e :: e' :: es => by
    rw [kindsAll_cons_cons]
    exact (balanced_kinds e).append (balanced_kindsAll (e' :: es))

end

/-- Only an expression in parentheses is written in **parentheses as a whole**. -/
theorem kinds_ne_parenthesized {e : Expr} (h : ∀ e', e ≠ nested e') {ks : List Token.Kind}
    (hks : Balanced ks) : e.kinds ≠ .opening :: (ks ++ [.closing]) := by
  cases e with
  | nested e => exact absurd rfl (h e)
  | binary left op right =>
    rw [kinds_binary]
    exact hks.not_append left.balanced_kinds left.kinds_ne_nil (List.cons_ne_nil _ _)
  | inList e items negated =>
    rw [kinds_inList]
    exact hks.not_append e.balanced_kinds e.kinds_ne_nil (by simp)
  | isNull e negated =>
    rw [kinds_isNull]
    exact hks.not_append e.balanced_kinds e.kinds_ne_nil (testKinds_ne_nil negated)
  | literal l =>
    obtain ⟨-, k, ks', hks', hne⟩ := l.balanced_kinds
    rw [kinds, tokens, hks']
    exact fun heq => hne (List.cons.inj heq).1
  | call name args =>
    obtain ⟨k, ks', hks', hne⟩ := exists_nameKinds_eq_cons name
    rw [kinds_call, hks']
    exact fun heq => hne (List.cons.inj heq).1
  | column name => simp
  | wildcard => simp
  | not e => simp
  | cast e type => simp

end Expr

/-- A phrase has tokens. -/
theorem Phrase.ne_nil {x : Expr} {ks : List Token.Kind} {a b : Nat} (h : Phrase x ks a b) :
    ks ≠ [] := by
  cases h with
  | @isNull _ negated => simp [testKinds_ne_nil negated]
  | _ => simp

mutual

/-- A phrase is **balanced**. -/
theorem Phrase.balanced : ∀ {x : Expr} {ks : List Token.Kind} {a b : Nat}, Phrase x ks a b →
    Balanced ks
  | _, _, _, _, .column | _, _, _, _, .constant | _, _, _, _, .number _ | _, _, _, _, .negative _
  | _, _, _, _, .callNothing _ | _, _, _, _, .callStar _ => rfl
  | _, _, _, _, .binary hl hr _ _ => hl.balanced.append hr.balanced
  | _, _, _, _, .not he _ => he.balanced
  | _, _, _, _, .isNull he _ => he.balanced.append (balanced_testKinds _)
  | _, _, _, _, .inList he _ hitems =>
    he.balanced.append ((balanced_listKinds _).append hitems.balanced.parenthesized)
  | _, _, _, _, .call _ hargs => hargs.balanced.parenthesized
  | _, _, _, _, .cast he _ _ => he.balanced.cast (.of_forall (by simp))
  | _, _, _, _, .nested he => he.balanced.parenthesized

/-- So are phrases with commas between them. -/
theorem Phrases.balanced : ∀ {xs : List Expr} {ks : List Token.Kind}, Phrases xs ks → Balanced ks
  | _, _, .one he => he.balanced
  | _, _, .more he hes => he.balanced.append hes.balanced

end

/-- What is read **in parentheses as a whole** is what is read between them. -/
theorem Phrase.of_parenthesized {x : Expr} {ks : List Token.Kind} (hks : Balanced ks) {a b : Nat}
    (h : Phrase x (.opening :: (ks ++ [.closing])) a b) :
    (∃ a' b', Phrase x ks a' b') ∧ a = closedLevel ∧ b = closedLevel := by
  generalize hwhole : Token.Kind.opening :: (ks ++ [.closing]) = whole at h
  cases h with
  | nested he =>
    obtain rfl := List.append_cancel_right (List.cons.inj hwhole).2
    exact ⟨⟨_, _, he⟩, rfl, rfl⟩
  | binary hl hr =>
    exact absurd hwhole.symm (hks.not_append hl.balanced hl.ne_nil (List.cons_ne_nil _ _))
  | isNull he =>
    exact absurd hwhole.symm (hks.not_append he.balanced he.ne_nil (testKinds_ne_nil _))
  | inList he =>
    exact absurd hwhole.symm (hks.not_append he.balanced he.ne_nil (by simp))
  | _ => cases hwhole

/-! ### Counting what stands between operands -/

/-- Whether a token is a **joint** between operands or items. -/
def Token.Kind.isJoint : Token.Kind → Bool
  | operator _ | not | isIn | comma => true
  | _ => false

/-- How many of some tokens are joints. -/
def joints (ks : List Token.Kind) : Nat := ks.countP Token.Kind.isJoint

/-- The joints of two parts are counted apart. -/
theorem joints_append (ks ms : List Token.Kind) : joints (ks ++ ms) = joints ks + joints ms :=
  List.countP_append

/-- A token counts if it is a joint. -/
theorem joints_cons (k : Token.Kind) (ks : List Token.Kind) :
    joints (k :: ks) = joints ks + if k.isJoint then 1 else 0 :=
  List.countP_cons

/-- Parentheses are no joints. -/
theorem joints_parenthesized (ks : List Token.Kind) :
    joints (.opening :: (ks ++ [.closing])) = joints ks := by
  simp [joints, Token.Kind.isJoint]

/-- Where two texts have a joint with **as many joints in front** of it, they are the same in front
of it and behind it. -/
theorem eq_of_joints_eq {front front' back back' : List Token.Kind} {k k' : Token.Kind}
    (hk : k.isJoint) (hk' : k'.isJoint) (h : front ++ k :: back = front' ++ k' :: back')
    (hjoints : joints front = joints front') : front = front' ∧ k :: back = k' :: back' := by
  rcases List.append_eq_append_iff.mp h with ⟨mid, rfl, hback⟩ | ⟨mid, rfl, hback⟩
  · cases mid with
    | nil => exact ⟨(List.append_nil front).symm, hback⟩
    | cons c mid =>
      obtain ⟨rfl, -⟩ := List.cons.inj hback
      simp [joints, hk] at hjoints
  · cases mid with
    | nil => exact ⟨List.append_nil front', hback.symm⟩
    | cons c mid =>
      obtain ⟨rfl, -⟩ := List.cons.inj hback
      simp [joints, hk'] at hjoints

/-- The name of a function has the kind of one. -/
theorem nameKinds_of_isOrdinary {name : String} (h : isOrdinary name) :
    nameKinds name = [.function name] := by
  rw [nameKinds, wordsOf, splitOn_of_isOrdinary h]
  simp [kind_of_isOrdinary h]

/-- A name of several words is split into these. -/
theorem splitOn_intercalate {words : List String} (hne : words ≠ [])
    (h : ∀ w ∈ words, isOrdinary w) :
    List.splitOn ' ' (" ".intercalate words).toList = words.map String.toList := by
  rw [Text.splitOn_eq_iff]
  refine ⟨by simpa using hne, ?_, by simp [String.toList_intercalate]⟩
  intro part hpart
  obtain ⟨w, hw, rfl⟩ := List.mem_map.mp hpart
  have hword := h w hw
  rw [isOrdinary, Bool.and_eq_true] at hword
  exact space_notMem_of_isPlainWord hword.1

/-- Ordinary words with blanks between them are the name of a type, and these words. -/
theorem nameKinds_intercalate {words : List String} (hne : words ≠ [])
    (h : ∀ w ∈ words, isOrdinary w) :
    IsTypeName (" ".intercalate words) ∧
      nameKinds (" ".intercalate words) = words.map .function := by
  have hsplit := splitOn_intercalate hne h
  constructor
  · intro part hpart
    rw [hsplit] at hpart
    obtain ⟨w, hw, rfl⟩ := List.mem_map.mp hpart
    rw [String.ofList_toList]
    exact h w hw
  · rw [nameKinds, wordsOf, hsplit, List.map_map, List.map_map]
    refine List.map_congr_left fun w hw => ?_
    rw [Function.comp_apply, Function.comp_apply, String.ofList_toList,
      kind_of_isOrdinary (h w hw)]

/-- A constant has no joints. -/
theorem joints_literal (l : Literal) : joints (Expr.literal l).kinds = 0 := by
  have hsigned : ∀ (negative : Bool) (digits : String),
      joints ((signed negative digits).map Token.kind) = 0 := by
    intro negative digits
    cases negative <;> rfl
  rw [Expr.kinds, Expr.tokens]
  cases l with
  | integer n => exact hsigned _ _
  | float x => exact hsigned _ _
  | boolean b => cases b <;> rfl
  | _ => rfl

mutual

/-- How many joints an expression has does not hang on **how it is written**. -/
theorem Phrase.joints_eq : ∀ {x : Expr} {ks : List Token.Kind} {a b : Nat}, Phrase x ks a b →
    joints ks = joints x.kinds
  | _, _, _, _, .column => by rw [Expr.kinds_column]
  | _, _, _, _, .constant | _, _, _, _, .number _ | _, _, _, _, .negative _ => by
    rw [joints_literal]
    rfl
  | _, _, _, _, .binary hl hr _ _ => by
    simp only [Expr.kinds_binary, joints_append, joints_cons, hl.joints_eq, hr.joints_eq]
  | _, _, _, _, .not he _ => by
    simp only [Expr.kinds_not, joints_cons, he.joints_eq]
  | _, _, _, _, .isNull he _ => by
    simp only [Expr.kinds_isNull, joints_append, he.joints_eq]
  | _, _, _, _, .inList he _ hitems => by
    simp only [Expr.kinds_inList, joints_append, joints_cons, he.joints_eq, hitems.joints_eq]
  | _, _, _, _, .callNothing hname => by
    rw [Expr.kinds_call, nameKinds_of_isOrdinary hname]
    rfl
  | _, _, _, _, .callStar hname => by
    rw [Expr.kinds_call, nameKinds_of_isOrdinary hname]
    rfl
  | _, _, _, _, .call hname hargs => by
    simp only [Expr.kinds_call, nameKinds_of_isOrdinary hname, List.singleton_append, joints_append,
      joints_cons, hargs.joints_eq]
  | _, _, _, _, .cast he hne hwords => by
    simp only [Expr.kinds_cast, (nameKinds_intercalate hne hwords).2, joints_append, joints_cons,
      he.joints_eq]
  | _, _, _, _, .nested he => by rw [joints_parenthesized, he.joints_eq]

/-- Nor does it in expressions with commas between them. -/
theorem Phrases.joints_eq : ∀ {xs : List Expr} {ks : List Token.Kind}, Phrases xs ks →
    joints ks = joints (Expr.kindsAll xs)
  | _, _, .one he => by
    rw [Expr.kindsAll_singleton]
    exact he.joints_eq
  | _ :: [], _, .more _ hes => nomatch hes
  | _ :: _ :: _, _, .more he hes => by
    rw [Expr.kindsAll_cons_cons, joints_append, joints_append, joints_cons, joints_cons,
      he.joints_eq, hes.joints_eq]

end

namespace Expr

mutual

/-- Without its parentheses an expression has **as many joints**. -/
theorem joints_bare : ∀ e : Expr, joints e.bare.kinds = joints e.kinds
  | column _ | wildcard => by rw [bare]
  | literal l => by
    rw [bare, joints_literal]
    cases l with
    | timestamp i => rfl
    | float x => exact joints_literal _
    | _ => exact joints_literal _
  | binary left op right => by
    simp only [bare, kinds_binary, joints_append, joints_cons, joints_bare left, joints_bare right]
  | not e => by simp only [bare, kinds_not, joints_cons, joints_bare e]
  | isNull e negated => by simp only [bare, kinds_isNull, joints_append, joints_bare e]
  | inList e items negated => by
    simp only [bare, kinds_inList, joints_append, joints_cons, joints_bare e,
      joints_bareAll items]
  | call name args => by
    simp only [bare, kinds_call, joints_append, joints_cons, joints_bareAll args]
  | cast e type => by
    simp only [bare, kinds_cast, joints_append, joints_cons, joints_bare e]
  | nested e => by rw [bare, kinds_nested, joints_parenthesized, joints_bare e]

/-- So have expressions with commas between them. -/
theorem joints_bareAll : ∀ es : List Expr, joints (kindsAll (bareAll es)) = joints (kindsAll es)
  | [] => rfl
  | [e] => by simp only [bareAll, kindsAll_singleton, joints_bare e]
  | e :: e' :: es => by
    have hrest := joints_bareAll (e' :: es)
    rw [bareAll] at hrest
    rw [bareAll, bareAll, kindsAll_cons_cons, kindsAll_cons_cons, joints_append, joints_append,
      joints_cons, joints_cons, joints_bare e, hrest]

end

end Expr

/-! ### Only clear expressions are read as they were meant -/

/-- Where the tokens of an expression and of a phrase of it stand in front of joints, they are the
same tokens. -/
theorem Phrase.eq_kinds {e : Expr} {ks back back' : List Token.Kind} {a b : Nat}
    (he : Phrase e.bare ks a b) {k k' : Token.Kind} (hk : k.isJoint) (hk' : k'.isJoint)
    (h : e.kinds ++ k :: back = ks ++ k' :: back') : ks = e.kinds ∧ k :: back = k' :: back' := by
  have hjoints : joints e.kinds = joints ks := by rw [he.joints_eq, e.joints_bare]
  obtain ⟨hfront, hback⟩ := eq_of_joints_eq hk hk' h hjoints
  exact ⟨hfront.symm, hback⟩

/-- In front of a list stands a joint. -/
theorem exists_listKinds_eq_cons (negated : Bool) :
    ∃ k ks, listKinds negated = k :: ks ∧ k.isJoint := by
  cases negated <;> exact ⟨_, _, rfl, rfl⟩

/-- What is written as an asterisk is one. -/
theorem Expr.eq_wildcard_of_kindsAll {es : List Expr} (hbare : bareAll es = [wildcard])
    (hkinds : kindsAll es = [.star]) : es = [wildcard] := by
  obtain ⟨e, rfl⟩ : ∃ e, es = [e] := by
    match es, hbare with
    | [e], _ => exact ⟨e, rfl⟩
    | _ :: _ :: _, hbare => simp [bareAll] at hbare
  rw [kindsAll_singleton] at hkinds
  cases e with
  | wildcard => rfl
  | nested e => simp at hkinds
  | literal l => cases l <;> cases hbare
  | _ => cases hbare

/-- A constant holds together by itself. -/
theorem Phrase.closed_of_literal {l : Literal} {ks : List Token.Kind} {a b : Nat}
    (h : Phrase (.literal l) ks a b) : a = closedLevel ∧ b = closedLevel := by
  cases h <;> exact ⟨rfl, rfl⟩

/-- So does a cast. -/
theorem Phrase.closed_of_cast {e : Expr} {type : String} {ks : List Token.Kind} {a b : Nat}
    (h : Phrase (.cast e type) ks a b) : a = closedLevel ∧ b = closedLevel := by
  cases h <;> exact ⟨rfl, rfl⟩

/-- So does a constant as it is read. -/
theorem Phrase.closed_of_bare {l : Literal} {ks : List Token.Kind} {a b : Nat}
    (h : Phrase l.bare ks a b) : a = closedLevel ∧ b = closedLevel := by
  cases l with
  | timestamp i => exact h.closed_of_cast
  | _ => exact h.closed_of_literal

namespace Expr

mutual

/-- An expression that is **read from its own tokens** is clear, and its tokens hold together as
it does. -/
theorem clear_of_phrase : ∀ (e : Expr) {ks : List Token.Kind} {a b : Nat}, e.isPlain →
    Phrase e.bare ks a b → e.kinds = ks → e.Clear ∧ a = e.level ∧ b = e.bound
  | .column name, _, _, _, _, h, _ => by
    cases h <;> exact ⟨trivial, rfl, rfl⟩
  | .literal l, _, _, _, hplain, h, _ => by
    obtain ⟨rfl, rfl⟩ := Phrase.closed_of_bare h
    exact ⟨hplain, rfl, rfl⟩
  | .wildcard, _, _, _, _, h, hks => by
    cases h with
    | nested => simp at hks
  | .binary left op right, _, _, _, hplain, h, hks => by
    rw [isPlain, Bool.and_eq_true] at hplain
    rw [bare] at h
    cases h with
    | nested he => exact absurd hks (kinds_ne_parenthesized (by simp) he.balanced)
    | binary hl hr hleft hright =>
      rw [kinds_binary] at hks
      obtain ⟨hl', hback⟩ := hl.eq_kinds rfl rfl hks
      obtain ⟨-, hr'⟩ := List.cons.inj hback
      obtain ⟨hlclear, rfl, rfl⟩ := clear_of_phrase left hplain.1 hl hl'.symm
      obtain ⟨hrclear, rfl, rfl⟩ := clear_of_phrase right hplain.2 hr hr'
      exact ⟨⟨⟨hlclear, hleft⟩, hrclear, hright⟩, rfl, rfl⟩
  | .not e, _, _, _, hplain, h, hks => by
    rw [isPlain] at hplain
    rw [bare] at h
    cases h with
    | nested he => exact absurd hks (kinds_ne_parenthesized (by simp) he.balanced)
    | not he hlevel =>
      rw [kinds_not] at hks
      obtain ⟨hclear, rfl, rfl⟩ := clear_of_phrase e hplain he (List.cons.inj hks).2
      exact ⟨⟨hclear, hlevel⟩, rfl, rfl⟩
  | .isNull e negated, _, _, _, hplain, h, hks => by
    rw [isPlain] at hplain
    rw [bare] at h
    cases h with
    | nested he => exact absurd hks (kinds_ne_parenthesized (by simp) he.balanced)
    | isNull he hbound =>
      rw [kinds_isNull] at hks
      obtain ⟨hclear, rfl, rfl⟩ := clear_of_phrase e hplain he (List.append_cancel_right hks)
      exact ⟨⟨hclear, hbound⟩, rfl, rfl⟩
  | .nested e, _, _, _, hplain, h, hks => by
    rw [isPlain] at hplain
    rw [bare] at h
    subst hks
    rw [kinds_nested] at h
    obtain ⟨⟨a', b', he⟩, rfl, rfl⟩ := h.of_parenthesized e.balanced_kinds
    obtain ⟨hclear, -⟩ := clear_of_phrase e hplain he rfl
    exact ⟨hclear, rfl, rfl⟩
  | .inList e items negated, _, _, _, hplain, h, hks => by
    rw [isPlain, Bool.and_eq_true] at hplain
    rw [bare] at h
    cases h with
    | nested he => exact absurd hks (kinds_ne_parenthesized (by simp) he.balanced)
    | inList he hbound hitems =>
      obtain ⟨k, back, hback, hk⟩ := exists_listKinds_eq_cons negated
      rw [kinds_inList, hback] at hks
      obtain ⟨he', hrest⟩ := he.eq_kinds hk hk hks
      obtain ⟨-, hlist⟩ := List.cons.inj (List.append_cancel_left (List.cons.inj hrest).2)
      obtain ⟨hclear, rfl, rfl⟩ := clear_of_phrase e hplain.1 he he'.symm
      obtain ⟨hitemsclear, hne⟩ :=
        allClear_of_phrases items hplain.2 hitems (List.append_cancel_right hlist)
      exact ⟨⟨⟨hclear, hbound⟩, hne, hitemsclear⟩, rfl, rfl⟩
  | .call name args, _, _, _, hplain, h, hks => by
    rw [isPlain, Bool.and_eq_true] at hplain
    rw [bare] at h
    generalize hbare : bareAll args = xs at h
    cases h with
    | nested he => exact absurd hks (kinds_ne_parenthesized (by simp) he.balanced)
    | call hname hargs =>
      subst hbare
      rw [kinds_call, nameKinds_of_isOrdinary hname] at hks
      obtain ⟨-, hlist⟩ := List.cons.inj (List.cons.inj hks).2
      obtain ⟨hclear, -⟩ := allClear_of_phrases args hplain.2 hargs (List.append_cancel_right hlist)
      exact ⟨⟨hname, .inr hclear⟩, rfl, rfl⟩
    | callNothing hname =>
      obtain rfl : args = [] := by cases args <;> simp_all [bareAll]
      exact ⟨⟨hname, .inr trivial⟩, rfl, rfl⟩
    | callStar hname =>
      rw [kinds_call, nameKinds_of_isOrdinary hname] at hks
      obtain ⟨-, hlist⟩ := List.cons.inj (List.cons.inj hks).2
      have hstar : kindsAll args ++ [.closing] = [.star] ++ [.closing] := hlist
      obtain rfl := eq_wildcard_of_kindsAll hbare (List.append_cancel_right hstar)
      exact ⟨⟨hname, .inl rfl⟩, rfl, rfl⟩
  | .cast e type, _, _, _, hplain, h, hks => by
    rw [isPlain, Bool.and_eq_true] at hplain
    rw [bare] at h
    cases h with
    | nested he => exact absurd hks (kinds_ne_parenthesized (by simp) he.balanced)
    | cast he hne hwords =>
      obtain ⟨htype, hwords⟩ := nameKinds_intercalate hne hwords
      rw [kinds_cast, hwords] at hks
      obtain ⟨hclear, rfl, rfl⟩ := clear_of_phrase e hplain.1 he
        (List.append_cancel_right (List.cons.inj (List.cons.inj hks).2).2)
      exact ⟨⟨hclear, htype⟩, rfl, rfl⟩

/-- Expressions that are read from their own tokens are clear, and there are some. -/
theorem allClear_of_phrases : ∀ (es : List Expr) {ks : List Token.Kind}, areAllPlain es →
    Phrases (bareAll es) ks → kindsAll es = ks → AllClear es ∧ es ≠ []
  | [], _, _, h, _ => nomatch h
  | [e], _, hplain, h, hks => by
    rw [areAllPlain, Bool.and_eq_true] at hplain
    rw [kindsAll_singleton] at hks
    cases h with
    | one he =>
      obtain ⟨hclear, -⟩ := clear_of_phrase e hplain.1 he hks
      exact ⟨⟨hclear, trivial⟩, List.cons_ne_nil e []⟩
    | more _ hes => cases hes
  | e :: e' :: es, _, hplain, h, hks => by
    rw [areAllPlain, Bool.and_eq_true] at hplain
    rw [kindsAll_cons_cons] at hks
    cases h with
    | more he hes =>
      obtain ⟨he', hback⟩ := he.eq_kinds rfl rfl hks
      obtain ⟨hclear, -⟩ := clear_of_phrase e hplain.1 he he'.symm
      obtain ⟨hrest, -⟩ := allClear_of_phrases (e' :: es) hplain.2 hes (List.cons.inj hback).2
      exact ⟨⟨hclear, hrest⟩, List.cons_ne_nil e _⟩

end

/-- The words of a text that are no keywords are **ordinary**. -/
theorem isOrdinary_of_lex {cs : List Char} {ts : List Token} (h : lex cs = some ts) {t : Token}
    (ht : t ∈ ts) {w : String} (hw : t.kind = .function w) : isOrdinary w := by
  obtain rfl := Token.eq_word_of_kind hw
  rw [isOrdinary, isPlainWord_of_lex h ht, Bool.true_and, beq_iff_eq]
  exact hw
/-- A **plain** expression is read as it was meant if and only if it is clear. -/
theorem parse_tokens_iff {e : Expr} (h : e.isPlain) :
    parse e.tokens = some e.bare ↔ e.Clear := by
  refine ⟨fun hparse => ?_, Clear.parse_tokens⟩
  have hlex : lex e.text.toList = some e.tokens := (reads_text e h).lex_eq .nil
  have hwords : ∀ t ∈ e.tokens, ∀ w, t.kind = .function w → isOrdinary w :=
    fun t ht w hw => isOrdinary_of_lex hlex ht hw
  obtain ⟨a, b, hphrase⟩ := phrase_of_parse hwords hparse
  exact (clear_of_phrase e h hphrase rfl).1

end Expr

end Listing.Sql
