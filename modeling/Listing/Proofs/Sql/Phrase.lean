import Listing.Proofs.Sql.Precedence

/-!
# Everything That Is Read Is a Phrase

`Phrase` says by rules which tokens an expression may be read from, with the levels up to which
they hold together on the left and on the right. The rules are those of the precedence table: an
operand stands beside an operator only if the operator does not take a part of it away, and
anything may stand in parentheses.

The reader keeps to these rules. `Reached` describes each of its states by the tokens behind it:
each operation on the stack has a phrase on its left, and the levels of the stack grow towards its
top, so that whatever ends an operation finds two phrases that may stand beside its operator.

## Main results

* `Behind.of_reduce` — what ends in front of a token ends with a phrase behind what is left.
* `Reached.step`, `Reached.run` — a step and a run of the reader keep to the rules.
* `phrase_of_parse` — what is read from some tokens is a phrase of these tokens.
-/

namespace Listing.Sql

/-! ### Phrases -/

/-- The tokens of a test for `NULL`. -/
def testKinds (negated : Bool) : List Token.Kind :=
  if negated then [.is, .not, .constant .null] else [.is, .constant .null]

/-- The tokens in front of the list that a value is looked for in. -/
def listKinds (negated : Bool) : List Token.Kind :=
  if negated then [.not, .isIn] else [.isIn]

mutual

/-- An expression without parentheses, tokens that it **may be read from**, and how tightly they
hold together on the left and on the right. -/
inductive Phrase : Expr → List Token.Kind → Nat → Nat → Prop
  | column {name : String} : Phrase (.column name) [.column name] closedLevel closedLevel
  | constant {l : Literal} : Phrase (.literal l) [.constant l] closedLevel closedLevel
  | number {digits : String} {l : Literal} (h : numeral? false digits = some l) :
      Phrase (.literal l) [.number digits] closedLevel closedLevel
  | negative {digits : String} {l : Literal} (h : numeral? true digits = some l) :
      Phrase (.literal l) [.minus, .number digits] closedLevel closedLevel
  | binary {left right : Expr} {op : BinaryOp} {ks ms : List Token.Kind} {a b a' b' : Nat}
      (hl : Phrase left ks a b) (hr : Phrase right ms a' b') (hleft : op.level ≤ b)
      (hright : op.level < a') :
      Phrase (.binary left op right) (ks ++ .operator op :: ms) (min op.level a) (min op.bound b')
  | not {e : Expr} {ks : List Token.Kind} {a b : Nat} (he : Phrase e ks a b)
      (hlevel : denialLevel < a) :
      Phrase (.not e) (.not :: ks) closedLevel (min (denialLevel - 1) b)
  | isNull {e : Expr} {negated : Bool} {ks : List Token.Kind} {a b : Nat} (he : Phrase e ks a b)
      (hbound : Token.Kind.level .is ≤ b) :
      Phrase (.isNull e negated) (ks ++ testKinds negated) (min (Token.Kind.level .is) a)
        closedLevel
  | inList {e : Expr} {items : List Expr} {negated : Bool} {ks ms : List Token.Kind} {a b : Nat}
      (he : Phrase e ks a b) (hbound : Token.Kind.level .isIn ≤ b) (hitems : Phrases items ms) :
      Phrase (.inList e items negated) (ks ++ (listKinds negated ++ .opening :: (ms ++ [.closing])))
        (min (Token.Kind.level .isIn) a) closedLevel
  | call {name : String} {args : List Expr} {ms : List Token.Kind} (hname : isOrdinary name)
      (hargs : Phrases args ms) :
      Phrase (.call name args) (.function name :: .opening :: (ms ++ [.closing])) closedLevel
        closedLevel
  | callNothing {name : String} (hname : isOrdinary name) :
      Phrase (.call name []) [.function name, .opening, .closing] closedLevel closedLevel
  | callStar {name : String} (hname : isOrdinary name) :
      Phrase (.call name [.wildcard]) [.function name, .opening, .star, .closing] closedLevel
        closedLevel
  | cast {e : Expr} {words : List String} {ks : List Token.Kind} {a b : Nat} (he : Phrase e ks a b)
      (hne : words ≠ []) (hwords : ∀ w ∈ words, isOrdinary w) :
      Phrase (.cast e (" ".intercalate words))
        (.cast :: .opening :: (ks ++ .as :: (words.map .function ++ [.closing]))) closedLevel
        closedLevel
  | nested {e : Expr} {ks : List Token.Kind} {a b : Nat} (he : Phrase e ks a b) :
      Phrase e (.opening :: (ks ++ [.closing])) closedLevel closedLevel

/-- Expressions and tokens that they may be read from, with commas between them. -/
inductive Phrases : List Expr → List Token.Kind → Prop
  | one {e : Expr} {ks : List Token.Kind} {a b : Nat} (he : Phrase e ks a b) : Phrases [e] ks
  | more {e : Expr} {es : List Expr} {ks ms : List Token.Kind} {a b : Nat} (he : Phrase e ks a b)
      (hes : Phrases es ms) : Phrases (e :: es) (ks ++ .comma :: ms)

end

/-- One more expression behind a comma. -/
theorem Phrases.append : ∀ {es : List Expr} {ks : List Token.Kind}, Phrases es ks →
    ∀ {e : Expr} {ms : List Token.Kind} {a b : Nat}, Phrase e ms a b →
      Phrases (es ++ [e]) (ks ++ .comma :: ms)
  | _, _, .one hf, _, _, _, _, he => .more hf (.one he)
  | _, _, .more hf hes, _, _, _, _, he => by
    have hrest := hes.append he
    simpa using Phrases.more hf hrest

/-! ### What is begun -/

/-- An expression that **stands between** a stack and a token of some level: it holds together as
an operand of the token, and the token holds it tighter than the stack does. -/
def Between (stack : List Frame) (level : Nat) (e : Expr) (ks : List Token.Kind) : Prop :=
  ∃ a b, Phrase e ks a b ∧ level ≤ b ∧ stackLevel stack < min level a

/-- The tokens of what a list in parentheses belongs to, which stands behind a stack. -/
inductive Headed (stack : List Frame) : Listed → List Token.Kind → Prop
  | call {name : String} (hname : isOrdinary name) : Headed stack (.call name) [.function name]
  | inList {e : Expr} {negated : Bool} {ks : List Token.Kind}
      (he : Between stack (Token.Kind.level .isIn) e ks) :
      Headed stack (.inList e negated) (ks ++ listKinds negated)

/-- The tokens of the items of an open list. -/
inductive Items : List Expr → List Token.Kind → Prop
  | nil : Items [] []
  | comma {es : List Expr} {ks : List Token.Kind} (h : Phrases es ks) : Items es (ks ++ [.comma])

/-- A stack and the tokens that it has been **begun** with. -/
inductive Begun : List Frame → List Token.Kind → Prop
  | nil : Begun [] []
  | operand {stack : List Frame} {left : Expr} {op : BinaryOp} {ks ms : List Token.Kind}
      (h : Begun stack ks) (hl : Between stack op.level left ms) :
      Begun (.operand left op :: stack) (ks ++ (ms ++ [.operator op]))
  | denial {stack : List Frame} {ks : List Token.Kind} (h : Begun stack ks) :
      Begun (.denial :: stack) (ks ++ [.not])
  | group {stack : List Frame} {ks : List Token.Kind} (h : Begun stack ks) :
      Begun (.group :: stack) (ks ++ [.opening])
  | list {stack : List Frame} {of : Listed} {items : List Expr} {ks hs ms : List Token.Kind}
      (h : Begun stack ks) (hof : Headed stack of hs) (hitems : Items items ms) :
      Begun (.list of items :: stack) (ks ++ (hs ++ .opening :: ms))
  | cast {stack : List Frame} {ks : List Token.Kind} (h : Begun stack ks) :
      Begun (.cast :: stack) (ks ++ [.cast, .opening])

/-- A list without items has no tokens. -/
theorem Items.eq_nil {ks : List Token.Kind} (h : Items [] ks) : ks = [] := by
  cases h with
  | nil => rfl
  | comma h => cases h

/-- A list is complete with its last item. -/
theorem Items.append {es : List Expr} {ks : List Token.Kind} (h : Items es ks) {e : Expr}
    {ms : List Token.Kind} {a b : Nat} (he : Phrase e ms a b) : Phrases (es ++ [e]) (ks ++ ms) := by
  cases h with
  | nil => exact .one he
  | comma h => simpa using h.append he

/-- No operation on a stack is as tight as what no operator takes apart. -/
theorem stackLevel_lt_closed : ∀ stack : List Frame, stackLevel stack < closedLevel
  | .operand _ op :: _ => op.level_lt_closed
  | .denial :: _ => by rw [stackLevel]; decide
  | [] | .group :: _ | .list _ _ :: _ | .cast :: _ => by rw [stackLevel] <;> simp [closedLevel]

/-- Without an operation on top a stack holds no operand. -/
theorem stackLevel_eq_zero {stack : List Frame}
    (hoperand : ∀ left op rest, stack = .operand left op :: rest → False)
    (hdenial : ∀ rest, stack = .denial :: rest → False) : stackLevel stack = 0 := by
  fun_cases stackLevel stack with
  | case1 left op rest => exact (hoperand left op rest rfl).elim
  | case2 rest => exact (hdenial rest rfl).elim
  | case3 => rfl

/-- What a complete list in parentheses makes of what it belongs to. -/
theorem Headed.close {stack : List Frame} {of : Listed} {hs ms : List Token.Kind}
    {items : List Expr} (h : Headed stack of hs) (hitems : Phrases items ms) :
    ∃ a, Phrase (of.close items) (hs ++ .opening :: (ms ++ [.closing])) a closedLevel ∧
      stackLevel stack < a := by
  cases h with
  | call hname => exact ⟨_, .call hname hitems, stackLevel_lt_closed stack⟩
  | inList he =>
    obtain ⟨a, b, he, hbound, hlevel⟩ := he
    rw [List.append_assoc]
    exact ⟨_, .inList he hbound hitems, hlevel⟩

/-- An expression that **stands behind** a stack and that a token of some level does not take
apart, with the tokens of both. -/
inductive Behind (level : Nat) (stack : List Frame) (e : Expr) : List Token.Kind → Prop
  | intro {ks ms : List Token.Kind} {a b : Nat} (h : Begun stack ks) (he : Phrase e ms a b)
      (hbound : level ≤ b) (hlevel : stackLevel stack < a) : Behind level stack e (ks ++ ms)

/-- A token that is not as tight does not take it apart either. -/
theorem Behind.mono {level level' : Nat} {stack : List Frame} {e : Expr} {ks : List Token.Kind}
    (h : Behind level' stack e ks) (hle : level ≤ level') : Behind level stack e ks := by
  obtain ⟨hbegun, he, hbound, hlevel⟩ := h
  exact ⟨hbegun, he, hle.trans hbound, hlevel⟩

/-- The operation on top of a stack ends with the expression behind the stack. -/
theorem Behind.binary {level : Nat} {stack : List Frame} {left e : Expr} {op : BinaryOp}
    {ks : List Token.Kind} (h : Behind level (.operand left op :: stack) e ks)
    (hop : level ≤ op.bound) : Behind level stack (.binary left op e) ks := by
  obtain ⟨hbegun, he, hbound, hlevel⟩ := h
  cases hbegun with
  | operand hbegun hl =>
    obtain ⟨a', b', hl, hleft, hstack⟩ := hl
    have hphrase := Phrase.binary hl he hleft hlevel
    simpa using Behind.intro hbegun hphrase (Nat.le_min.mpr ⟨hop, hbound⟩) hstack

/-- A denial on top of a stack ends with the expression behind the stack. -/
theorem Behind.not {level : Nat} {stack : List Frame} {e : Expr} {ks : List Token.Kind}
    (h : Behind level (.denial :: stack) e ks) (hdenial : level < denialLevel) :
    Behind level stack (.not e) ks := by
  obtain ⟨hbegun, he, hbound, hlevel⟩ := h
  have hle : level ≤ denialLevel - 1 := Nat.le_sub_one_of_lt hdenial
  cases hbegun with
  | denial hbegun =>
    have hphrase := Phrase.not he hlevel
    simpa using Behind.intro hbegun hphrase (Nat.le_min.mpr ⟨hle, hbound⟩)
      (stackLevel_lt_closed stack)

/-- What a token holds tighter than the stack does stands between the two. -/
theorem Behind.between {level : Nat} {stack : List Frame} {e : Expr} {ks : List Token.Kind}
    (h : Behind level stack e ks) (hlevel : stackLevel stack < level) :
    ∃ ks' ms, ks = ks' ++ ms ∧ Begun stack ks' ∧ Between stack level e ms := by
  obtain ⟨hbegun, he, hbound, hstack⟩ := h
  exact ⟨_, _, rfl, hbegun, _, _, he, hbound, Nat.lt_min.mpr ⟨hlevel, hstack⟩⟩

/-- What **ends** in front of a token ends with an expression behind what is left of the stack.
The token holds it tighter than that does, unless it is one that ends everything. -/
theorem Behind.of_reduce {level : Nat} (hne : level ≠ denialLevel) {stack stack' : List Frame}
    {e e' : Expr} {ks : List Token.Kind} (h : Behind level stack e ks)
    (hreduce : reduce level stack e = some (stack', e')) :
    Behind level stack' e' ks ∧ (0 < level → stackLevel stack' < level) := by
  fun_induction reduce level stack e with
  | case1 left op stack e hends ih =>
    refine ih (h.binary ?_) hreduce
    unfold BinaryOp.bound
    split
    · omega
    · next hchained =>
      have hlt : level < op.level := hends.resolve_right fun hop => hchained hop.2
      exact Nat.le_sub_one_of_lt hlt
  | case2 => cases hreduce
  | case3 left op stack e hends heq =>
    obtain ⟨rfl, rfl⟩ := Prod.mk.inj (Option.some.inj hreduce)
    refine ⟨h, fun _ => ?_⟩
    rw [stackLevel]
    omega
  | case4 stack e hends ih => exact ih (h.not hends) hreduce
  | case5 stack e hends =>
    obtain ⟨rfl, rfl⟩ := Prod.mk.inj (Option.some.inj hreduce)
    exact ⟨h, fun _ => Nat.lt_of_le_of_ne (Nat.not_lt.mp hends) hne.symm⟩
  | case6 stack e hoperand hdenial =>
    obtain ⟨rfl, rfl⟩ := Prod.mk.inj (Option.some.inj hreduce)
    refine ⟨h, fun hpos => ?_⟩
    rwa [stackLevel_eq_zero hoperand hdenial]

/-! ### The states of the reader -/

/-- The tokens behind which the reader **has reached** a state. -/
inductive Reached : State → List Token.Kind → Prop
  | want {stack : List Frame} {ks : List Token.Kind} (h : Begun stack ks) :
      Reached (.want stack) ks
  | got {stack : List Frame} {e : Expr} {ks : List Token.Kind}
      (h : Behind closedLevel stack e ks) : Reached (.got stack e) ks
  | negative {stack : List Frame} {ks : List Token.Kind} (h : Begun stack ks) :
      Reached (.negative stack) (ks ++ [.minus])
  | named {stack : List Frame} {name : String} {ks : List Token.Kind} (h : Begun stack ks)
      (hname : isOrdinary name) : Reached (.named stack name) (ks ++ [.function name])
  | starred {stack : List Frame} {name : String} {ks : List Token.Kind} (h : Begun stack ks)
      (hname : isOrdinary name) :
      Reached (.starred stack name) (ks ++ [.function name, .opening, .star])
  | casting {stack : List Frame} {ks : List Token.Kind} (h : Begun stack ks) :
      Reached (.casting stack) (ks ++ [.cast])
  | typing {stack : List Frame} {e : Expr} {words : List String} {ks ms : List Token.Kind}
      {a b : Nat} (h : Begun stack ks) (he : Phrase e ms a b) (hwords : ∀ w ∈ words, isOrdinary w) :
      Reached (.typing stack e words)
        (ks ++ (.cast :: .opening :: (ms ++ .as :: words.map .function)))
  | testing {stack : List Frame} {e : Expr} (negated : Bool) {ks ms : List Token.Kind}
      (h : Begun stack ks) (he : Between stack (Token.Kind.level .is) e ms) :
      Reached (.testing stack e negated)
        (ks ++ (ms ++ if negated then [.is, .not] else [.is]))
  | denying {stack : List Frame} {e : Expr} {ks ms : List Token.Kind} (h : Begun stack ks)
      (he : Between stack (Token.Kind.level .isIn) e ms) :
      Reached (.denying stack e) (ks ++ (ms ++ [.not]))
  | listing {stack : List Frame} {e : Expr} (negated : Bool) {ks ms : List Token.Kind}
      (h : Begun stack ks) (he : Between stack (Token.Kind.level .isIn) e ms) :
      Reached (.listing stack e negated) (ks ++ (ms ++ listKinds negated))

/-- Behind an operand that nothing takes apart the reader has got it. -/
theorem Reached.of_closed {stack : List Frame} {e : Expr} {ks ms : List Token.Kind}
    (h : Begun stack ks) (he : Phrase e ms closedLevel closedLevel) :
    Reached (.got stack e) (ks ++ ms) :=
  .got (.intro h he le_rfl (stackLevel_lt_closed stack))

/-- **In front of an operand** the reader keeps to the rules. -/
theorem Reached.wanting {stack : List Frame} {ks : List Token.Kind} (h : Begun stack ks)
    {k : Token.Kind} (hk : ∀ w, k = .function w → isOrdinary w) {s : State}
    (hstep : State.wanting stack k = some s) : Reached s (ks ++ [k]) := by
  unfold State.wanting at hstep
  split at hstep
  case h_1 name => cases hstep; exact .of_closed h .column
  case h_2 l => cases hstep; exact .of_closed h .constant
  case h_3 digits =>
    obtain ⟨l, hl, rfl⟩ := Option.map_eq_some_iff.mp hstep
    exact .of_closed h (.number hl)
  case h_4 => cases hstep; exact .negative h
  case h_5 => cases hstep; exact .want (.denial h)
  case h_6 => cases hstep; exact .want (.group h)
  case h_7 name => cases hstep; exact .named h (hk name rfl)
  case h_8 => cases hstep; exact .casting h
  case h_9 =>
    split at hstep
    · next name rest =>
      cases hstep
      cases h with
      | list h hof hitems =>
        cases hof with
        | call hname => simpa [hitems.eq_nil] using Reached.starred h hname
    · cases hstep
  case h_10 =>
    split at hstep
    · next name rest =>
      cases hstep
      cases h with
      | list h hof hitems =>
        cases hof with
        | call hname => simpa [hitems.eq_nil] using Reached.of_closed h (.callNothing hname)
    · cases hstep
  case h_11 => cases hstep

/-- **Behind an operand**, in front of which all has ended, the reader keeps to the rules. -/
theorem Reached.behind {stack : List Frame} {e : Expr} {ks : List Token.Kind} {k : Token.Kind}
    (h : Behind k.level stack e ks) (hlevel : 0 < k.level → stackLevel stack < k.level) {s : State}
    (hstep : State.behind stack e k = some s) : Reached s (ks ++ [k]) := by
  unfold State.behind at hstep
  split at hstep
  case h_1 op =>
    cases hstep
    obtain ⟨ks, ms, rfl, hbegun, he⟩ := h.between (hlevel op.level_pos)
    simpa using Reached.want (hbegun.operand he)
  case h_2 =>
    cases hstep
    obtain ⟨ks, ms, rfl, hbegun, he⟩ := h.between (hlevel (by decide))
    simpa using Reached.testing false hbegun he
  case h_3 =>
    cases hstep
    obtain ⟨ks, ms, rfl, hbegun, he⟩ := h.between (hlevel (by decide))
    simpa using Reached.denying hbegun he
  case h_4 =>
    cases hstep
    obtain ⟨ks, ms, rfl, hbegun, he⟩ := h.between (hlevel (by decide))
    simpa [listKinds] using Reached.listing false hbegun he
  case h_5 =>
    split at hstep
    · cases hstep
      obtain ⟨hbegun, he, -, -⟩ := h
      cases hbegun with
      | cast hbegun =>
        have hwords : ∀ w ∈ ([] : List String), isOrdinary w := by simp
        simpa using Reached.typing hbegun he hwords
    · cases hstep
  case h_6 =>
    split at hstep
    · cases hstep
      obtain ⟨hbegun, he, -, -⟩ := h
      cases hbegun with
      | list hbegun hof hitems =>
        simpa using Reached.want (hbegun.list hof (.comma (hitems.append he)))
    · cases hstep
  case h_7 =>
    obtain ⟨hbegun, he, -, -⟩ := h
    split at hstep
    · cases hstep
      cases hbegun with
      | group hbegun => simpa using Reached.of_closed hbegun (.nested he)
    · cases hstep
      cases hbegun with
      | list hbegun hof hitems =>
        obtain ⟨a, hclose, hlevel⟩ := hof.close (hitems.append he)
        simpa using Reached.got (.intro hbegun hclose le_rfl hlevel)
    · cases hstep
  case h_8 => cases hstep

/-- No token is as tight as `NOT` in front of an operand. -/
theorem Token.Kind.level_ne_denial (k : Token.Kind) : k.level ≠ denialLevel := by
  cases k with
  | operator op => cases op <;> decide
  | _ => simp [level, denialLevel]

/-- No token is as tight as what no operator takes apart. -/
theorem Token.Kind.level_le_closed (k : Token.Kind) : k.level ≤ closedLevel := by
  cases k with
  | operator op => exact op.level_lt_closed.le
  | _ => simp [level, closedLevel]

/-- Where only one kind of token may follow, the reader keeps to the rules. -/
theorem Reached.of_only {s s' : State} {ks : List Token.Kind} {k : Token.Kind} {t : Token}
    (h : Reached s (ks ++ [k])) (hstep : (if t.kind = k then some s else none) = some s') :
    Reached s' (ks ++ [t.kind]) := by
  split at hstep
  · next hk =>
    cases hstep
    rw [hk]
    exact h
  · cases hstep

/-- **In a type** the reader keeps to the rules. -/
theorem Reached.step_typing {stack : List Frame} {e : Expr} {words : List String}
    {ks ms : List Token.Kind} {a b : Nat} (h : Begun stack ks) (he : Phrase e ms a b)
    (hwords : ∀ w ∈ words, isOrdinary w) {t : Token} (ht : ∀ w, t.kind = .function w → isOrdinary w)
    {s : State} (hstep : (State.typing stack e words).step t = some s) :
    Reached s (ks ++ (.cast :: .opening :: (ms ++ .as :: words.map .function)) ++ [t.kind]) := by
  simp only [State.step] at hstep
  split at hstep
  · next w hk =>
    cases hstep
    rw [hk]
    have hwords' := List.forall_mem_append.mpr ⟨hwords, List.forall_mem_singleton.mpr (ht w hk)⟩
    simpa using Reached.typing h he hwords'
  · next hk =>
    split at hstep
    · cases hstep
    · next hne =>
      cases hstep
      rw [hk]
      simpa using Reached.of_closed h (.cast he hne hwords)
  · cases hstep

/-- **In a test** for `NULL` the reader keeps to the rules. -/
theorem Reached.step_testing {stack : List Frame} {e : Expr} {negated : Bool}
    {ks ms : List Token.Kind} (h : Begun stack ks) (he : Between stack (Token.Kind.level .is) e ms)
    {t : Token} {s : State} (hstep : (State.testing stack e negated).step t = some s) :
    Reached s (ks ++ (ms ++ if negated then [.is, .not] else [.is]) ++ [t.kind]) := by
  simp only [State.step] at hstep
  split at hstep
  · next hk =>
    cases hstep
    rw [hk]
    obtain ⟨a, b, he, hbound, hlevel⟩ := he
    have htest : Phrase (.isNull _ negated) _ _ _ := .isNull he hbound
    have hgot := Reached.got (.intro h htest le_rfl hlevel)
    cases negated <;> simpa [testKinds] using hgot
  · split at hstep
    · next hk =>
      cases hstep
      obtain ⟨hk, rfl⟩ := hk
      rw [hk]
      simpa using Reached.testing true h he
    · cases hstep

/-- A **step** of the reader keeps to the rules. -/
theorem Reached.step {s s' : State} {ks : List Token.Kind} (h : Reached s ks) {t : Token}
    (ht : ∀ w, t.kind = .function w → isOrdinary w) (hstep : s.step t = some s') :
    Reached s' (ks ++ [t.kind]) := by
  cases h with
  | want h => exact Reached.wanting h ht hstep
  | got h =>
    obtain ⟨⟨stack, e⟩, hreduce, hbehind⟩ := Option.bind_eq_some_iff.mp hstep
    obtain ⟨hends, hlevel⟩ :=
      (h.mono t.kind.level_le_closed).of_reduce t.kind.level_ne_denial hreduce
    exact Reached.behind hends hlevel hbehind
  | negative h =>
    simp only [State.step] at hstep
    split at hstep
    · next digits =>
      obtain ⟨l, hl, rfl⟩ := Option.map_eq_some_iff.mp hstep
      simpa [Token.kind] using Reached.of_closed h (.negative hl)
    · cases hstep
  | named h hname =>
    have hnext := Reached.want (h.list (.call hname) .nil)
    exact .of_only (by simpa using hnext) hstep
  | starred h hname =>
    have hnext := Reached.of_closed h (.callStar hname)
    exact .of_only (by simpa using hnext) hstep
  | casting h =>
    have hnext := Reached.want h.cast
    exact .of_only (by simpa using hnext) hstep
  | typing h he hwords => exact Reached.step_typing h he hwords ht hstep
  | testing negated h he => exact Reached.step_testing h he hstep
  | denying h he =>
    have hnext := Reached.listing true h he
    exact .of_only (by simpa [listKinds] using hnext) hstep
  | listing negated h he =>
    have hof : Headed _ (.inList _ negated) _ := .inList he
    have hnext := Reached.want (h.list hof .nil)
    exact .of_only (by simpa using hnext) hstep

/-- A **run** of the reader keeps to the rules. -/
theorem Reached.run {ts : List Token} (hts : ∀ t ∈ ts, ∀ w, t.kind = .function w → isOrdinary w)
    {s : State} {ks : List Token.Kind} (h : Reached s ks) {x : Expr} (hrun : s.run ts = some x) :
    ∃ a b, Phrase x (ks ++ ts.map Token.kind) a b := by
  induction ts generalizing s ks with
  | nil =>
    rw [State.run] at hrun
    unfold State.finish at hrun
    split at hrun
    · next stack e =>
      cases h with
      | got h =>
        split at hrun
        · next hreduce =>
          obtain ⟨⟨hbegun, he, -, -⟩, -⟩ :=
            (h.mono (Nat.zero_le _)).of_reduce (by decide) hreduce
          cases hrun
          cases hbegun
          simpa using ⟨_, _, he⟩
        · cases hrun
    · cases hrun
  | cons t ts ih =>
    rw [List.forall_mem_cons] at hts
    obtain ⟨s', hstep, hrun⟩ := Option.bind_eq_some_iff.mp hrun
    simpa using ih hts.2 (h.step hts.1 hstep) hrun

/-- **What is read is a phrase** of the tokens that it is read from. -/
theorem phrase_of_parse {ts : List Token}
    (hts : ∀ t ∈ ts, ∀ w, t.kind = .function w → isOrdinary w) {x : Expr} (h : parse ts = some x) :
    ∃ a b, Phrase x (ts.map Token.kind) a b :=
  Reached.run hts (.want .nil) h

end Listing.Sql
