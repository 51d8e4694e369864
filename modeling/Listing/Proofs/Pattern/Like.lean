import Listing.Pattern.Check
import Listing.Proofs.Results

/-!
# The Expression of a Like Value

A *like* value is an expression in which an asterisk may be short for `.*`. Written out in full it
is `starred`, and both stores get it unchanged, for no part of it stands for itself. Its pieces are
checked one by one; a piece that a run follows never ends in a backslash, so that what no piece
contains the whole expression does not contain either.

## Main results

* `body_ofLike` — the expression of a like value, whatever characters a store reserves.
* `portableFault?_starred` — an accepted value has no construct that only one store knows.
* `exists_read_of_check` — an accepted pattern is read as an expression between its anchors.
-/

namespace Listing.Pattern

/-- A like value **written out**: each asterisk that neither a point nor a backslash precedes is a
run of any characters. The character in front of the value is `before`. -/
def starred (before : Option Char) : List Char → List Char
  | [] => []
  | c :: cs =>
    if c = '*' ∧ before ≠ some '.' ∧ before ≠ some '\\' then
      '.' :: '*' :: starred (some c) cs
    else c :: starred (some c) cs

variable {reserved : List Char}

/-! ### The segments put together -/

/-- Pending characters are written as they are. -/
theorem body_flush (pending : List Char) (p : Pattern) :
    body reserved (flush .raw pending ++ p) = pending.reverse ++ body reserved p := by
  cases pending <;> simp [flush, body, Segment.write]

/-- The segments of the rest of a value are written as the rest written out. -/
theorem body_likeFrom (pending : List Char) (before : Option Char) (cs : List Char) :
    body reserved (likeFrom pending before cs) = pending.reverse ++ starred before cs := by
  fun_induction likeFrom pending before cs with
  | case1 pending before =>
    have hflush : body reserved (flush .raw pending ++ []) = _ := body_flush pending []
    simpa [starred, body] using hflush
  | case2 pending before c cs h ih =>
    have hrun : body reserved (.anyRun :: likeFrom [] (some c) cs) =
        '.' :: '*' :: starred (some c) cs := by
      rw [List.reverse_nil, List.nil_append] at ih
      rw [← ih]
      rfl
    rw [body_flush, hrun, starred, if_pos h]
  | case3 pending before c cs h ih =>
    rw [ih, starred, if_neg h, List.reverse_cons, List.append_assoc, List.singleton_append]

/-- The expression of a like value is the value **written out**. -/
theorem body_ofLike (v : List Char) : body reserved (ofLike v) = starred none v :=
  body_likeFrom [] none v

/-! ### Constructs that only one store knows -/

/-- Pending characters are checked by themselves. -/
theorem unportable?_flush {pending : List Char} {p : Pattern} :
    unportable? (flush .raw pending ++ p) = none ↔
      portableFault? pending.reverse = none ∧ unportable? p = none := by
  cases pending with
  | nil => simp [flush, unportable?, portableFault?]
  | cons c pending => simp [flush, unportable?]

/-- A text without such a construct can stand in front of another one, if it does not end in the
middle of a construct. -/
theorem portableFault?_append {cs ds : List Char} (h : portableFault? cs = none)
    (hlast : cs.getLast? ≠ some '\\') (hhead : ds.head? ≠ some '?') :
    portableFault? (cs ++ ds) = portableFault? ds := by
  fun_induction portableFault? cs with
  | case1 => rfl
  | case2 => exact absurd rfl hlast
  | case3 c rest halnum => cases h
  | case4 c rest halnum ih =>
    have hrest : rest.getLast? ≠ some '\\' := by
      intro hrest
      rw [List.getLast?_cons, List.getLast?_cons, hrest] at hlast
      exact hlast rfl
    rw [List.cons_append, List.cons_append, portableFault?, if_neg halnum, ih h hrest]
  | case5 rest => cases h
  | case6 c rest hback hescape hopen ih =>
    have hrest : rest.getLast? ≠ some '\\' := by
      intro hrest
      rw [List.getLast?_cons, hrest] at hlast
      exact hlast rfl
    rw [List.cons_append, portableFault?, ih h hrest]
    · rintro rfl hnil
      rw [(List.append_eq_nil_iff.mp hnil).1] at hback
      exact hback rfl rfl
    · intro c' rest' hc hrest'
      cases rest with
      | nil => exact hback hc rfl
      | cons d ds => exact hescape d ds hc rfl
    · intro rest' hc hrest'
      cases rest with
      | nil => exact hhead (by simpa using congrArg List.head? hrest')
      | cons d ds =>
        obtain ⟨rfl, -⟩ := List.cons.inj hrest'
        exact hopen ds hc rfl

/-- What no segment of the rest of a value contains, the rest written out does not contain. -/
theorem portableFault?_likeFrom {pending : List Char} {before : Option Char} {cs : List Char}
    (h : unportable? (likeFrom pending before cs) = none)
    (hbefore : ∀ c ∈ pending.head?, before = some c) :
    portableFault? (pending.reverse ++ starred before cs) = none := by
  fun_induction likeFrom pending before cs with
  | case1 pending before =>
    rw [← List.append_nil (flush _ _), unportable?_flush] at h
    simpa [starred] using h.1
  | case2 pending before c cs hc ih =>
    obtain ⟨hpending, hrest⟩ := unportable?_flush.mp h
    have hlast : pending.reverse.getLast? ≠ some '\\' := by
      rw [List.getLast?_reverse]
      exact fun hhead => hc.2.2 (hbefore _ hhead)
    have hstarred : portableFault? (starred (some c) cs) = none := by
      simpa using ih hrest (by simp)
    rw [starred, if_pos hc, portableFault?_append hpending hlast (by simp)]
    simpa [portableFault?] using hstarred
  | case3 pending before c cs hc ih =>
    rw [starred, if_neg hc]
    simpa using ih h (by simp)

/-- An accepted like value, written out, has **no construct that only one store knows**. -/
theorem portableFault?_starred {v : List Char} (h : unportable? (ofLike v) = none) :
    portableFault? (starred none v) = none :=
  portableFault?_likeFrom h (by simp)

/-! ### Accepted patterns -/

instance (p : Pattern) : Decidable (p.check = .ok ()) :=
  decidable_of_iff (p.check.isOk = true) <| by
    rcases p.check with _ | ⟨⟩ <;> simp [Except.isOk, Except.toBool]

/-- An accepted pattern has no construct that only one store knows, and is read as an expression
between its anchors. -/
theorem exists_read_of_check {p : Pattern} (h : p.check = .ok ()) :
    unportable? p = none ∧ ∃ e, Expression.read p.posix = .ok e := by
  unfold check at h
  split at h
  · cases h
  next hnone =>
    obtain ⟨e, he, -⟩ := bind_eq_ok.mp h
    exact ⟨hnone, e, he⟩

end Listing.Pattern
