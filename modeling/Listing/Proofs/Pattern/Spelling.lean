import Listing.Proofs.Pattern.Wildcards
import Mathlib.Data.List.Chain

/-!
# Contains Values Lose Nothing

A *contains* value is read as texts with runs of any characters between them. Written back, a run
is an asterisk and an asterisk inside a text has a backslash in front of it. A backslash is not
escaped, so a text that ends with one would take the asterisk of a run behind it for its own, and
two texts side by side would become one. A pattern without such neighbours is **legible**, and every
value is exactly one legible pattern.

## Main results

* `value_ofContains` — no character of a value is lost.
* `ofContains_value` — a legible pattern is read as it was written.
* `legible_ofContains` — only legible patterns are read.
* `contains_inverse` — so reading and writing contains values are inverse to each other.
-/

namespace Listing.Pattern

/-! ### Writing values -/

/-- A segment as a piece of a **contains value**. -/
def Segment.value : Segment → List Char
  | .anyRun => ['*']
  | .literal text => escape ['*'] text
  | .raw text => text

/-- The **contains value** of a pattern. -/
def value (p : Pattern) : List Char := p.flatMap Segment.value

/-- A segment of a contains value: a run, or a text that is not empty. -/
def Segment.IsOfValue : Segment → Prop
  | .anyRun => True
  | .literal text => text ≠ []
  | .raw _ => False

/-- Whether a segment ends where another one starts behind it: a text ends in front of a run, unless
its last character escapes the asterisk of the run. -/
def Segment.EndsBefore : Segment → Segment → Prop
  | .literal _, .literal _ => False
  | .literal text, .anyRun => text.getLast? ≠ some '\\'
  | _, _ => True

/-- A **legible** pattern, which can be told from its value. -/
structure Legible (p : Pattern) : Prop where
  /-- The segments are runs and texts that are not empty. -/
  isOfValue : ∀ s ∈ p, Segment.IsOfValue s
  /-- No two texts are neighbours, and no text in front of a run ends with a backslash. -/
  isChain : p.IsChain Segment.EndsBefore

instance : DecidablePred Segment.IsOfValue
  | .anyRun => .isTrue trivial
  | .literal text => inferInstanceAs (Decidable (text ≠ []))
  | .raw _ => .isFalse id

instance : DecidableRel Segment.EndsBefore
  | .literal _, .literal _ => .isFalse id
  | .literal text, .anyRun => inferInstanceAs (Decidable (text.getLast? ≠ some '\\'))
  | .literal _, .raw _ | .anyRun, _ | .raw _, _ => .isTrue trivial

instance (p : Pattern) : Decidable (Legible p) :=
  decidable_of_iff ((∀ s ∈ p, Segment.IsOfValue s) ∧ p.IsChain Segment.EndsBefore)
    ⟨fun h => ⟨h.1, h.2⟩, fun h => ⟨h.isOfValue, h.isChain⟩⟩

variable {p : Pattern} {text pending : List Char}

@[simp] theorem value_nil : value [] = [] := rfl

@[simp] theorem value_run : value (.anyRun :: p) = '*' :: value p := rfl

@[simp] theorem value_literal : value (.literal text :: p) = escape ['*'] text ++ value p := rfl

/-- The characters read since the last segment are written back in front of what follows. -/
theorem value_flush (pending : List Char) (p : Pattern) :
    value (flush .literal pending ++ p) = escape ['*'] pending.reverse ++ value p := by
  cases pending <;> simp [flush, escape]

/-! ### Legible patterns -/

namespace Legible

/-- A run may stand in front of everything. -/
theorem run (h : Legible p) : Legible (.anyRun :: p) := by
  refine ⟨List.forall_mem_cons.mpr ⟨trivial, h.isOfValue⟩, ?_⟩
  exact List.isChain_cons.mpr ⟨fun s _ => by cases s <;> trivial, h.isChain⟩

/-- A text may stand at the end, or in front of a run that it does not escape. -/
theorem literal (htext : text ≠ []) (h : Legible p)
    (hends : ∀ s ∈ p.head?, Segment.EndsBefore (.literal text) s) : Legible (.literal text :: p) :=
  ⟨List.forall_mem_cons.mpr ⟨htext, h.isOfValue⟩, List.isChain_cons.mpr ⟨hends, h.isChain⟩⟩

/-- What is behind the first segment is legible. -/
theorem tail {s : Segment} (h : Legible (s :: p)) : Legible p :=
  ⟨(List.forall_mem_cons.mp h.isOfValue).2, (List.isChain_cons.mp h.isChain).2⟩

/-- A text is at the end, or in front of a run that it does not escape. -/
theorem eq_nil_or_run (h : Legible (.literal text :: p)) :
    text ≠ [] ∧ (p = [] ∨ (∃ q, p = .anyRun :: q) ∧ text.getLast? ≠ some '\\') := by
  obtain ⟨htext, hp⟩ := List.forall_mem_cons.mp h.isOfValue
  refine ⟨htext, ?_⟩
  cases p with
  | nil => exact .inl rfl
  | cons s q =>
    have hends : Segment.EndsBefore (.literal text) s := (List.isChain_cons.mp h.isChain).1 s rfl
    cases s with
    | anyRun => exact .inr ⟨⟨q, rfl⟩, hends⟩
    | literal _ => exact hends.elim
    | raw _ => exact (hp _ List.mem_cons_self).elim

end Legible

/-! ### Reading them back -/

/-- What is written of a text that is not empty does not start with an asterisk. -/
theorem head?_escape_star_append_ne (htext : text ≠ []) (rest : List Char) :
    (escape ['*'] text ++ rest).head? ≠ some '*' := by
  obtain ⟨c, text, rfl⟩ := List.exists_cons_of_ne_nil htext
  by_cases hc : c = '*' <;> simp [escape, hc]

/-- A character is read unless it is an asterisk, or a backslash in front of one. -/
theorem containsFrom_cons {c : Char} (hrun : c ≠ '*') {cs : List Char}
    (hescape : c = '\\' → cs.head? ≠ some '*') (pending : List Char) :
    containsFrom pending (c :: cs) = containsFrom (c :: pending) cs := by
  rw [containsFrom]
  · rintro cs rfl rfl
    exact hescape rfl rfl
  · exact hrun

/-- What is written of a text is **read back**, unless its last character escapes what comes behind
it. -/
theorem containsFrom_escape_star (text : List Char) {rest : List Char}
    (hrest : text.getLast? = some '\\' → rest.head? ≠ some '*') (pending : List Char) :
    containsFrom pending (escape ['*'] text ++ rest) =
      containsFrom (text.reverse ++ pending) rest := by
  induction text generalizing pending with
  | nil => rfl
  | cons c text ih =>
    have htail : text.getLast? = some '\\' → rest.head? ≠ some '*' := by
      intro hlast
      exact hrest (by rw [List.getLast?_cons, hlast]; rfl)
    rw [List.reverse_cons, List.append_assoc, List.singleton_append, ← ih htail]
    by_cases hc : c = '*'
    · subst hc
      show containsFrom pending ('\\' :: '*' :: (escape ['*'] text ++ rest)) = _
      rw [containsFrom]
    · have hescape : c = '\\' → (escape ['*'] text ++ rest).head? ≠ some '*' := by
        rintro rfl
        by_cases htext : text = []
        · subst htext
          exact hrest rfl
        · exact head?_escape_star_append_ne htext rest
      have hwritten : escape ['*'] (c :: text) ++ rest = c :: (escape ['*'] text ++ rest) := by
        simp [escape, hc]
      rw [hwritten, containsFrom_cons hc hescape]

/-- A text that has been read **ends** in front of an asterisk and at the end of the value. -/
theorem containsFrom_of_ends (hpending : pending ≠ []) {cs : List Char}
    (h : cs = [] ∨ ∃ rest, cs = '*' :: rest) :
    containsFrom pending cs = .literal pending.reverse :: containsFrom [] cs := by
  have hflush : flush .literal pending = [.literal pending.reverse] := by
    simp [flush, hpending]
  rcases h with rfl | ⟨rest, rfl⟩
  · rw [containsFrom, hflush]
    rfl
  · rw [containsFrom, containsFrom, hflush]
    rfl

/-- A legible pattern is **read** as it was written. -/
theorem ofContains_value (h : Legible p) : ofContains (value p) = p := by
  induction p with
  | nil => rfl
  | cons s p ih =>
    have ih := ih h.tail
    cases s with
    | anyRun =>
      rw [value_run, ofContains, containsFrom]
      exact congrArg (.anyRun :: ·) ih
    | literal text =>
      obtain ⟨htext, hp⟩ := h.eq_nil_or_run
      have hescape : text.getLast? = some '\\' → (value p).head? ≠ some '*' := by
        rintro hlast
        rcases hp with rfl | ⟨-, hne⟩
        · simp
        · exact absurd hlast hne
      have hends : value p = [] ∨ ∃ rest, value p = '*' :: rest := by
        rcases hp with rfl | ⟨⟨q, rfl⟩, -⟩
        · exact .inl rfl
        · exact .inr ⟨_, rfl⟩
      rw [value_literal, ofContains, containsFrom_escape_star text hescape, List.append_nil,
        containsFrom_of_ends (by simpa using htext) hends, List.reverse_reverse]
      exact congrArg (.literal text :: ·) ih
    | raw text => exact (h.isOfValue _ List.mem_cons_self).elim

/-! ### Writing them again -/

/-- What has been read of a text and what is left are **written again** by the segments that are
found in them. -/
theorem value_containsFrom (pending cs : List Char) :
    value (containsFrom pending cs) = escape ['*'] pending.reverse ++ cs := by
  fun_induction containsFrom pending cs with
  | case1 pending => simpa using value_flush pending []
  | case2 pending cs ih =>
    rw [ih, escape_reverse_cons]
    rfl
  | case3 pending cs ih =>
    rw [value_flush, value_run, ih]
    rfl
  | case4 pending c cs _ hrun ih =>
    have hplain : escape ['*'] [c] = [c] := by simpa [escape] using hrun
    rw [ih, escape_reverse_cons, hplain]
    rfl

/-- **No character** of a value is lost when it is read. -/
theorem value_ofContains (cs : List Char) : value (ofContains cs) = cs :=
  value_containsFrom [] cs

/-- The segments that are found are legible, if what has been read does not end with a backslash in
front of an asterisk. -/
theorem legible_containsFrom {cs : List Char}
    (h : pending.head? = some '\\' → cs.head? ≠ some '*') : Legible (containsFrom pending cs) := by
  fun_induction containsFrom pending cs with
  | case1 pending =>
    unfold flush
    split
    next => exact ⟨by simp, .nil⟩
    next hpending => exact .literal (by simpa using hpending) ⟨by simp, .nil⟩ (by simp)
  | case2 pending cs ih => exact ih (by simp)
  | case3 pending cs ih =>
    have hrun : Legible (.anyRun :: containsFrom [] cs) := (ih (by simp)).run
    unfold flush
    split
    next => exact hrun
    next hpending =>
      refine .literal (by simpa using hpending) hrun ?_
      rintro s ⟨rfl⟩
      show pending.reverse.getLast? ≠ some '\\'
      rw [List.getLast?_reverse]
      exact fun hlast => h hlast rfl
  | case4 pending c cs hescape _ ih =>
    refine ih ?_
    intro hc hcs
    obtain ⟨cs, rfl⟩ := List.head?_eq_some_iff.mp hcs
    exact hescape cs (Option.some.inj hc) rfl

/-- The pattern of a value is **legible**. -/
theorem legible_ofContains (cs : List Char) : Legible (ofContains cs) :=
  legible_containsFrom (by simp)

/-- Reading and writing contains values are **inverse** to each other, between all texts and the
legible patterns. -/
theorem contains_inverse :
    (∀ cs, value (ofContains cs) = cs) ∧ (∀ p, Legible p → ofContains (value p) = p) ∧
      ∀ cs, Legible (ofContains cs) :=
  ⟨value_ofContains, fun _ h => ofContains_value h, legible_ofContains⟩

/-- Backslashes in front of an asterisk, runs side by side and a backslash at the end are read back
as they were written. -/
theorem contains_inverse_backslashes :
    let p : Pattern := [.literal "a\\*".toList, .anyRun, .anyRun, .literal "*\\b\\".toList]
    Legible p ∧ ofContains (value p) = p ∧ value p = "a\\\\***\\*\\b\\".toList := by
  intro p
  have h : Legible p := by decide
  exact ⟨h, contains_inverse.2.1 p h, by decide⟩

end Listing.Pattern
