import Mathlib.Data.List.Chain
import Listing.Proofs.Pattern.Like

/-!
# The Two Dialects of Expressions

The expression of a *like* value is handed to both stores as it is, and each reads it in its own
dialect. What a dialect makes of an expression is a list of **signs**: operators, characters that
stand for themselves, and the members of brackets. The relational store has the anchors `^` and
`$`, the shorthands and groups that the check refuses, and named elements in brackets such as
`[:alpha:]`; the search index has seven operators of its own, from `"` to `~`, which the check
lets pass.

So an accepted value may be read in two ways. `signs_eq_iff_of_check` says which values are not.

## Main results

* `oneSided_iff` — the nine characters that are operators in one dialect only.
* `portable_marks_iff` — what the check looks for, in terms of what has a backslash in front.
* `signs_eq_iff_of_check` — both stores read an accepted value in the same way exactly if none of
  the nine stands bare outside brackets and there is no named element.
-/

namespace Listing.Pattern

/-! ### Backslashes -/

/-- A character with or without a backslash in front. -/
inductive Mark where
  /-- A character as it is. -/
  | bare (c : Char)
  /-- A character behind a backslash. -/
  | escaped (c : Char)
deriving DecidableEq, Repr

/-- The **marks** of an expression. A backslash at its end stands in front of nothing. -/
def marks : List Char → List Mark
  | [] => []
  | ['\\'] => [.bare '\\']
  | '\\' :: c :: rest => .escaped c :: marks rest
  | c :: rest => .bare c :: marks rest

@[simp] theorem marks_nil : marks [] = [] := rfl

/-- A character other than a backslash is a mark by itself. -/
theorem marks_cons {c : Char} (h : c ≠ '\\') (cs : List Char) :
    marks (c :: cs) = .bare c :: marks cs := by
  rw [marks]
  · exact fun hc _ => h hc
  · exact fun _ _ hc _ => h hc

/-- No mark is what the check refuses: a letter or digit behind a backslash, or a question mark
that starts a group. -/
structure Portable (ms : List Mark) : Prop where
  /-- Nothing but signs stands behind a backslash. -/
  escapes : ∀ c, .escaped c ∈ ms → c.isAlphanum = false
  /-- No group starts with a question mark. -/
  groups : ms.IsChain fun m n => m = .bare '(' → n ≠ .bare '?'

/-- The first mark is looked at together with the one behind it. -/
theorem portable_cons {m : Mark} {ms : List Mark} :
    Portable (m :: ms) ↔ (∀ c, m = .escaped c → c.isAlphanum = false) ∧
      (m = .bare '(' → ms.head? ≠ some (.bare '?')) ∧ Portable ms := by
  constructor
  · intro h
    refine ⟨fun c hc => h.escapes c (hc ▸ .head _), fun hm hhead => ?_, ?_, h.groups.tail⟩
    · exact (List.isChain_cons.mp h.groups).1 _ hhead hm rfl
    · exact fun c hc => h.escapes c (.tail _ hc)
  · rintro ⟨hescape, hgroup, h⟩
    refine ⟨fun c hc => ?_, List.isChain_cons.mpr ⟨?_, h.groups⟩⟩
    · rcases List.mem_cons.mp hc with hm | hms
      · exact hescape c hm.symm
      · exact h.escapes c hms
    · rintro n hn hm rfl
      exact hgroup hm hn

/-- The rest of a portable expression is portable. -/
theorem Portable.tail {m : Mark} {ms : List Mark} (h : Portable (m :: ms)) : Portable ms :=
  (portable_cons.mp h).2.2

/-- A question mark stands first among the characters if it does so among the marks. -/
theorem head?_marks_eq {cs : List Char} :
    (marks cs).head? = some (.bare '?') ↔ cs.head? = some '?' := by
  fun_cases marks cs <;> simp

/-- The check of a piece **looks at its marks**. -/
theorem portable_marks_iff {cs : List Char} : portableFault? cs = none ↔ Portable (marks cs) := by
  have hnil : Portable [] := ⟨by simp, .nil⟩
  fun_induction portableFault? cs with
  | case1 => simpa using hnil
  | case2 => simpa [marks, portable_cons] using hnil
  | case3 c rest halnum => simp [marks, portable_cons, halnum]
  | case4 c rest halnum ih => simp [marks, portable_cons, halnum, ih]
  | case5 rest => simp [marks, portable_cons]
  | case6 c rest hback hescape hopen ih =>
    have hmarks : marks (c :: rest) = .bare c :: marks rest := by
      rw [marks]
      · exact hback
      · exact hescape
    have hgroup : c = '(' → (marks rest).head? ≠ some (.bare '?') := by
      rintro rfl hhead
      obtain ⟨ds, rfl⟩ := List.head?_eq_some_iff.mp (head?_marks_eq.mp hhead)
      exact hopen ds rfl rfl
    simpa [hmarks, portable_cons, ih] using fun _ => hgroup

/-! ### Brackets -/

/-- Where a reader is in regard to the brackets of a set. -/
inductive Bracket where
  /-- Outside. -/
  | outside
  /-- Right behind the opening bracket. -/
  | opened
  /-- Right behind the opening bracket and its caret. -/
  | negated
  /-- Behind a member. -/
  | inside
  /-- In a named element that ends with a character and a bracket. -/
  | element (c : Char)
deriving DecidableEq, Repr

/-- Where a reader is behind a mark. A closing bracket in the first place is a member. -/
def Bracket.next : Bracket → Mark → Bracket
  | .outside, m => if m = .bare '[' then .opened else .outside
  | .opened, m => if m = .bare '^' then .negated else .inside
  | .negated, _ => .inside
  | .inside, m => if m = .bare ']' then .outside else .inside
  | .element c, _ => .element c

/-- The characters that stand **bare outside brackets**. -/
def bareOutside : Bracket → List Mark → List Char
  | _, [] => []
  | .outside, .bare c :: rest => c :: bareOutside (.next .outside (.bare c)) rest
  | b, m :: rest => bareOutside (b.next m) rest

/-! ### Dialects -/

/-- What a dialect makes of a mark. -/
inductive Sign where
  /-- An operator. -/
  | operator (c : Char)
  /-- A character that stands for itself. -/
  | itself (c : Char)
  /-- A backslash and a letter or digit with a meaning of their own. -/
  | shorthand (c : Char)
  /-- A parenthesis and a question mark that start a special group. -/
  | extension
  /-- A bare character in brackets. -/
  | member (c : Char)
  /-- The start or the end of a named element in brackets. -/
  | element (c : Char)
deriving DecidableEq, Repr

/-- A **dialect** of expressions. -/
structure Dialect where
  /-- The operators outside brackets. -/
  operators : List Char
  /-- The characters that, behind a bracket inside brackets, start a named element. -/
  elements : List Char
  /-- Whether letters and digits have a meaning behind a backslash. -/
  hasShorthands : Bool
  /-- Whether a question mark behind an opening parenthesis starts a special group. -/
  hasExtensions : Bool

namespace Dialect

/-- The dialect of the relational store. -/
def posix : Dialect where
  operators := ['\\', '.', '*', '+', '?', '(', ')', '|', '[', ']', '\x7b', '\x7d', '^', '$']
  elements := [':', '.', '=']
  hasShorthands := true
  hasExtensions := true

/-- The dialect of the search index. -/
def lucene : Dialect where
  operators := ['\\', '.', '*', '+', '?', '(', ')', '|', '[', ']', '\x7b', '\x7d', '"', '#', '@',
    '&', '<', '>', '~']
  elements := []
  hasShorthands := false
  hasExtensions := false

/-- What a dialect makes of a mark, in regard to what follows. -/
def sign (d : Dialect) (b : Bracket) (following : Option Mark) : Mark → Sign
  | .escaped c => if d.hasShorthands ∧ c.isAlphanum then .shorthand c else .itself c
  | .bare c =>
    if b ≠ .outside then .member c
    else if d.hasExtensions ∧ c = '(' ∧ following = some (.bare '?') then .extension
    else if c ∈ d.operators then .operator c
    else .itself c

/-- The character of a named element that two marks start or end, and where a reader is behind
them. -/
def element? (d : Dialect) : Bracket → Mark → Mark → Option (Char × Bracket)
  | .outside, _, _ => none
  | .element c, m, n => if m = .bare c ∧ n = .bare ']' then some (c, .inside) else none
  | _, m, .bare c => if m = .bare '[' ∧ c ∈ d.elements then some (c, .element c) else none
  | _, _, _ => none

/-- The signs of marks. -/
def signsFrom (d : Dialect) (b : Bracket) : List Mark → List Sign
  | [] => []
  | [m] => [d.sign b none m]
  | m :: n :: rest =>
    match d.element? b m n with
    | some (c, behind) => .element c :: d.signsFrom behind rest
    | none => d.sign b (some n) m :: d.signsFrom (b.next m) (n :: rest)

/-- The **signs** of an expression. -/
def signs (d : Dialect) (cs : List Char) : List Sign := d.signsFrom .outside (marks cs)

end Dialect

/-- Whether a character is an operator in one dialect only. -/
def OneSided (c : Char) : Prop := ¬ (c ∈ Dialect.posix.operators ↔ c ∈ Dialect.lucene.operators)

instance : DecidablePred OneSided := fun _ => inferInstanceAs (Decidable (¬ _))

/-- The nine characters that are operators **in one dialect only**. -/
theorem oneSided_iff {c : Char} :
    OneSided c ↔ c ∈ ['"', '#', '@', '&', '<', '>', '~', '^', '$'] := by
  have hlist : ['"', '#', '@', '&', '<', '>', '~', '^', '$'] =
      Dialect.lucene.operators.filter (· ∉ Dialect.posix.operators) ++
        Dialect.posix.operators.filter (· ∉ Dialect.lucene.operators) := by decide
  simp only [hlist, OneSided, List.mem_append, List.mem_filter, decide_eq_true_eq]
  grind

/-! ### The two readings -/

/-- What stands bare outside brackets is the first mark, or stands behind it. -/
theorem mem_bareOutside_cons {c : Char} {b : Bracket} {m : Mark} {ms : List Mark} :
    c ∈ bareOutside b (m :: ms) ↔ (b = .outside ∧ m = .bare c) ∨ c ∈ bareOutside (b.next m) ms := by
  cases b <;> cases m <;> simp [bareOutside, eq_comm]

/-- No mark by itself is a named element. -/
theorem element_ne_sign {d : Dialect} {b : Bracket} {following : Option Mark} {m : Mark}
    {c : Char} : Sign.element c ≠ d.sign b following m := by
  cases m <;> simp only [Dialect.sign] <;> split_ifs <;> simp

/-- A reader that is not in a named element gets into one only by its start. -/
theorem next_ne_element {b : Bracket} (hb : ∀ c, b ≠ .element c) (m : Mark) (c : Char) :
    b.next m ≠ .element c := by
  cases b with
  | element e => exact absurd rfl (hb e)
  | negated => simp [Bracket.next]
  | outside | opened | inside => simp only [Bracket.next]; split_ifs <;> simp

/-- A portable mark is the same sign in both dialects unless it is a **one-sided** operator. -/
theorem sign_eq_iff {b : Bracket} {m : Mark} {following : Option Mark}
    (hescape : ∀ c, m = .escaped c → c.isAlphanum = false)
    (hgroup : m = .bare '(' → following ≠ some (.bare '?')) :
    Dialect.posix.sign b following m = Dialect.lucene.sign b following m ↔
      ∀ c, b = .outside → m = .bare c → ¬ OneSided c := by
  cases m with
  | escaped c => simp [Dialect.sign, hescape c rfl]
  | bare c =>
    by_cases hb : b = .outside
    · have hextension : ¬ (c = '(' ∧ following = some (.bare '?')) := by
        rintro ⟨rfl, hfollowing⟩
        exact hgroup rfl hfollowing
      by_cases hposix : c ∈ Dialect.posix.operators <;>
        by_cases hlucene : c ∈ Dialect.lucene.operators <;>
        simp [Dialect.sign, hb, hextension, hposix, hlucene, OneSided]
    · simp [Dialect.sign, hb]

/-- The search index reads mark by mark, for it knows no named elements. -/
theorem lucene_signsFrom_cons {b : Bracket} (hb : ∀ c, b ≠ .element c) (m : Mark)
    (ms : List Mark) :
    Dialect.lucene.signsFrom b (m :: ms) =
      Dialect.lucene.sign b ms.head? m :: Dialect.lucene.signsFrom (b.next m) ms := by
  cases ms with
  | nil => rfl
  | cons n rest =>
    have hnone : Dialect.lucene.element? b m n = none := by
      cases b with
      | element c => exact absurd rfl (hb c)
      | outside => rfl
      | opened | negated | inside => cases n <;> simp [Dialect.element?, Dialect.lucene]
    rw [Dialect.signsFrom, hnone, List.head?_cons]

/-- Both dialects read portable marks in the same way exactly if none of them is a one-sided
operator and there is **no named element**. -/
theorem signsFrom_eq_iff {b : Bracket} {ms : List Mark} (hb : ∀ c, b ≠ .element c)
    (h : Portable ms) :
    Dialect.posix.signsFrom b ms = Dialect.lucene.signsFrom b ms ↔
      (∀ c ∈ bareOutside b ms, ¬ OneSided c) ∧
        ∀ c, .element c ∉ Dialect.posix.signsFrom b ms := by
  fun_induction Dialect.signsFrom Dialect.posix b ms with
  | case1 b => simp [bareOutside, Dialect.signsFrom]
  | case2 b m =>
    obtain ⟨hescape, hgroup, -⟩ := portable_cons.mp h
    have hsign := @sign_eq_iff b m none hescape hgroup
    simp [Dialect.signsFrom, hsign, mem_bareOutside_cons, bareOutside, element_ne_sign]
  | case3 b m n rest c behind hsome ih =>
    -- The search index takes the bracket that starts the element for a member.
    rw [lucene_signsFrom_cons hb]
    constructor
    · intro heq
      exact absurd (List.cons.inj heq).1 element_ne_sign
    · rintro ⟨-, hnone⟩
      exact absurd (.head _) (hnone c)
  | case4 b m n rest hnone ih =>
    obtain ⟨hescape, hgroup, hrest⟩ := portable_cons.mp h
    have hsign := @sign_eq_iff b m (some n) hescape hgroup
    rw [lucene_signsFrom_cons hb, List.head?_cons, List.cons_eq_cons, hsign,
      ih (next_ne_element hb m) hrest]
    simp only [mem_bareOutside_cons (b := b), List.mem_cons, element_ne_sign, false_or]
    grind

/-- A value written out has a point in front of some asterisks, and **nothing else** that it has
not itself. -/
theorem mem_bareOutside_starred {b : Bracket} {before : Option Char} {cs : List Char} {c : Char}
    (hc : c ≠ '.') :
    c ∈ bareOutside b (marks (starred before cs)) ↔ c ∈ bareOutside b (marks cs) := by
  fun_induction marks cs generalizing b before with
  | case1 => simp [starred]
  | case2 => simp [starred, marks]
  | case3 e rest ih => simp [starred, marks, mem_bareOutside_cons, ih]
  | case4 e rest hback hescape ih =>
    by_cases hrun : e = '*' ∧ before ≠ some '.' ∧ before ≠ some '\\'
    · have houtside : b.next (.bare '.') = .outside ↔ b = .outside := by
        cases b <;> simp [Bracket.next]
      have hnext : (b.next (.bare '.')).next (.bare '*') = b.next (.bare '*') := by
        cases b <;> simp [Bracket.next]
      rw [starred, if_pos hrun, marks_cons (by decide), marks_cons (by decide)]
      simp [mem_bareOutside_cons, ih, hrun.1, hc.symm, houtside, hnext]
    · have hplain : e ≠ '\\' := by
        rintro rfl
        cases rest with
        | nil => exact hback rfl rfl
        | cons d rest => exact hescape d rest rfl rfl
      rw [starred, if_neg hrun, marks_cons hplain]
      simp [mem_bareOutside_cons, ih]

/-- Both stores read the expression of an accepted value **in the same way** exactly if no
one-sided operator stands bare outside its brackets and there is no named element. -/
theorem signs_eq_iff_of_check {v : List Char} (h : (ofLike v).check = .ok ()) :
    Dialect.posix.signs (body posixReserved (ofLike v)) = Dialect.lucene.signs (ofLike v).lucene ↔
      (∀ c ∈ bareOutside .outside (marks v), ¬ OneSided c) ∧
        ∀ c, .element c ∉ Dialect.posix.signs (body posixReserved (ofLike v)) := by
  obtain ⟨hportable, -⟩ := exists_read_of_check h
  have hmarks : Portable (marks (starred none v)) :=
    portable_marks_iff.mp (portableFault?_starred hportable)
  rw [lucene, body_ofLike, body_ofLike, Dialect.signs, Dialect.signs,
    signsFrom_eq_iff (by simp) hmarks]
  refine and_congr_left' (forall_congr' fun c => ?_)
  by_cases hc : c = '.'
  · have hpoint : ¬ OneSided '.' := by decide
    simp [hc, hpoint]
  · rw [mem_bareOutside_starred hc]

/-- A sign behind a backslash, or in brackets, is read in the same way. -/
theorem signs_eq_address :
    (ofLike "*\\@[#x]".toList).check = .ok () ∧
      Dialect.posix.signs (body posixReserved (ofLike "*\\@[#x]".toList)) =
        Dialect.lucene.signs (ofLike "*\\@[#x]".toList).lucene := by
  have haccepted : (ofLike "*\\@[#x]".toList).check = .ok () := by decide +kernel
  have hsigns : Dialect.posix.signs (body posixReserved (ofLike "*\\@[#x]".toList)) =
      [.operator '.', .operator '*', .itself '@', .operator '[', .member '#', .member 'x',
        .member ']'] := by decide
  refine ⟨haccepted, (signs_eq_iff_of_check haccepted).mpr ⟨by decide, fun c => ?_⟩⟩
  rw [hsigns]
  simp

/-- An address as it is is accepted, and the search index takes its sign for an operator. -/
theorem signs_ne_address :
    (ofLike "a@b".toList).check = .ok () ∧
      '@' ∈ bareOutside .outside (marks "a@b".toList) ∧ OneSided '@' ∧
      Dialect.posix.signs (body posixReserved (ofLike "a@b".toList)) =
        [.itself 'a', .itself '@', .itself 'b'] ∧
      Dialect.lucene.signs (ofLike "a@b".toList).lucene =
        [.itself 'a', .operator '@', .itself 'b'] :=
  ⟨by decide +kernel, by decide, by decide, by decide, by decide⟩

end Listing.Pattern
