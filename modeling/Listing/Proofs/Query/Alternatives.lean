import Listing.Proofs.Query.Building

/-!
# Alternatives Are Told Apart

The alternatives of a text stand between bars, and a bar that belongs to one of them has a
backslash in front of it. A backslash stands for nothing else, so it need not be escaped
itself, but then an alternative that ends with one takes the bar behind it for its own.
Alternatives of which none but the last ends so are **separable**. Every text is a list of
separable alternatives in exactly one way.

## Main results

* `joinAlternatives_alternatives` — no character of a text is lost.
* `alternatives_joinAlternatives` — separable alternatives are found as they were written.
* `separable_alternatives` — only separable alternatives are found.
* `alternatives_inverse` — so reading and writing alternatives are inverse to each other.
-/

namespace Listing

/-! ### Writing alternatives -/

/-- An alternative as it is **written**: its bars have a backslash in front of them. -/
def escapeBars (cs : List Char) : List Char :=
  cs.flatMap fun c => if c = '|' then ['\\', '|'] else [c]

/-- A text of alternatives, with bars between them. -/
def joinAlternatives (as : List (List Char)) : List Char := ['|'].intercalate (as.map escapeBars)

/-- **Separable** alternatives: there is one, and a bar behind any of them is not escaped by
its last character. -/
structure Separable (as : List (List Char)) : Prop where
  /-- There is an alternative, if only an empty one. -/
  ne_nil : as ≠ []
  /-- No alternative but the last ends with a backslash. -/
  getLast?_ne : ∀ a ∈ as.dropLast, a.getLast? ≠ some '\\'

instance (as : List (List Char)) : Decidable (Separable as) :=
  decidable_of_iff (as ≠ [] ∧ ∀ a ∈ as.dropLast, a.getLast? ≠ some '\\')
    ⟨fun h => ⟨h.1, h.2⟩, fun h => ⟨h.ne_nil, h.getLast?_ne⟩⟩

@[simp] theorem escapeBars_nil : escapeBars [] = [] := rfl

@[simp] theorem escapeBars_bar (cs : List Char) :
    escapeBars ('|' :: cs) = '\\' :: '|' :: escapeBars cs := rfl

@[simp] theorem escapeBars_cons {c : Char} (h : c ≠ '|') (cs : List Char) :
    escapeBars (c :: cs) = c :: escapeBars cs := by
  rw [escapeBars, List.flatMap_cons, if_neg h]
  rfl

@[simp] theorem escapeBars_append (cs ds : List Char) :
    escapeBars (cs ++ ds) = escapeBars cs ++ escapeBars ds := List.flatMap_append

/-- What is written of an alternative starts with no bar. -/
theorem head?_escapeBars_append_ne {a : List Char} (ha : a ≠ []) (rest : List Char) :
    (escapeBars a ++ rest).head? ≠ some '|' := by
  obtain ⟨c, a, rfl⟩ := List.exists_cons_of_ne_nil ha
  by_cases hc : c = '|'
  · subst hc
    simp
  · simp [hc]

@[simp] theorem joinAlternatives_singleton (a : List Char) :
    joinAlternatives [a] = escapeBars a := List.intercalate_singleton

/-- The first alternative is written in front of a bar and the others. -/
theorem joinAlternatives_cons {as : List (List Char)} (h : as ≠ []) (a : List Char) :
    joinAlternatives (a :: as) = escapeBars a ++ '|' :: joinAlternatives as := by
  obtain ⟨b, bs, rfl⟩ := List.exists_cons_of_ne_nil h
  rw [joinAlternatives, List.map_cons, List.map_cons, List.intercalate_cons_cons,
    List.append_assoc]
  rfl

/-! ### Reading them back -/

/-- A bar ends the alternative that is being read. -/
theorem alternativesFrom_bar (pending cs : List Char) :
    alternativesFrom pending ('|' :: cs) = pending.reverse :: alternatives cs := by
  rw [alternativesFrom, alternatives]

/-- A character is read unless it is a bar, or a backslash in front of one. -/
theorem alternativesFrom_cons {c : Char} (hbar : c ≠ '|') {cs : List Char}
    (hescape : c = '\\' → cs.head? ≠ some '|') (pending : List Char) :
    alternativesFrom pending (c :: cs) = alternativesFrom (c :: pending) cs := by
  rw [alternativesFrom]
  · rintro cs rfl rfl
    exact hescape rfl rfl
  · exact hbar

/-- What is written of an alternative is **read back**, unless its last character escapes
what comes behind it. -/
theorem alternativesFrom_escapeBars (a : List Char) {rest : List Char}
    (hrest : a.getLast? = some '\\' → rest.head? ≠ some '|') (pending : List Char) :
    alternativesFrom pending (escapeBars a ++ rest) =
      alternativesFrom (a.reverse ++ pending) rest := by
  induction a generalizing pending with
  | nil => rfl
  | cons c a ih =>
      have htail : a.getLast? = some '\\' → rest.head? ≠ some '|' := by
        intro hlast
        exact hrest (by rw [List.getLast?_cons, hlast]; rfl)
      rw [List.reverse_cons, List.append_assoc, List.singleton_append]
      by_cases hc : c = '|'
      · subst hc
        rw [escapeBars_bar, List.cons_append, List.cons_append, alternativesFrom]
        exact ih htail _
      · have hescape : c = '\\' → (escapeBars a ++ rest).head? ≠ some '|' := by
          rintro rfl
          by_cases ha : a = []
          · subst ha
            exact hrest rfl
          · exact head?_escapeBars_append_ne ha rest
        rw [escapeBars_cons hc, List.cons_append, alternativesFrom_cons hc hescape]
        exact ih htail _

/-- Separable alternatives are **found** as they were written. -/
theorem alternatives_joinAlternatives {as : List (List Char)} (h : Separable as) :
    alternatives (joinAlternatives as) = as := by
  obtain ⟨hne, hlast⟩ := h
  induction as with
  | nil => exact absurd rfl hne
  | cons a as ih =>
      by_cases has : as = []
      · subst has
        have hread : alternativesFrom [] (escapeBars a ++ []) =
            alternativesFrom (a.reverse ++ []) [] := alternativesFrom_escapeBars a (by simp) []
        rw [List.append_nil, List.append_nil] at hread
        rw [joinAlternatives_singleton, alternatives, hread, alternativesFrom,
          List.reverse_reverse]
      · rw [List.dropLast_cons_of_ne_nil has] at hlast
        obtain ⟨ha, hrest⟩ := List.forall_mem_cons.mp hlast
        rw [joinAlternatives_cons has, alternatives,
          alternativesFrom_escapeBars a (fun hbackslash => absurd hbackslash ha),
          List.append_nil, alternativesFrom_bar, List.reverse_reverse, ih has hrest]

/-! ### Writing them again -/

/-- What has been read of an alternative and what is left are written again by the
alternatives that are found in them. -/
theorem joinAlternatives_alternativesFrom (pending cs : List Char) :
    joinAlternatives (alternativesFrom pending cs) = escapeBars pending.reverse ++ cs := by
  fun_induction alternativesFrom pending cs with
  | case1 pending => simp
  | case2 pending cs ih => simp [ih]
  | case3 pending cs ih =>
      rw [joinAlternatives_cons (alternativesFrom_ne_nil _ _), ih]
      rfl
  | case4 pending c cs _ hbar ih => simp [ih, escapeBars_cons hbar]

/-- **No character** of a text is lost when its alternatives are read. -/
theorem joinAlternatives_alternatives (cs : List Char) :
    joinAlternatives (alternatives cs) = cs :=
  joinAlternatives_alternativesFrom [] cs

/-- No alternative but the last ends with a backslash, if what has been read does not end
with one in front of a bar. -/
theorem getLast?_ne_of_mem_dropLast {pending cs : List Char}
    (h : pending.head? = some '\\' → cs.head? ≠ some '|') :
    ∀ a ∈ (alternativesFrom pending cs).dropLast, a.getLast? ≠ some '\\' := by
  fun_induction alternativesFrom pending cs with
  | case1 pending => simp
  | case2 pending cs ih => exact ih (by simp)
  | case3 pending cs ih =>
      rw [List.dropLast_cons_of_ne_nil (alternativesFrom_ne_nil _ _)]
      refine List.forall_mem_cons.mpr ⟨?_, ih (by simp)⟩
      rw [List.getLast?_reverse]
      exact fun hpending => h hpending rfl
  | case4 pending c cs hescape _ ih =>
      refine ih ?_
      intro hc hcs
      obtain ⟨cs, rfl⟩ := List.head?_eq_some_iff.mp hcs
      exact hescape cs (Option.some.inj hc) rfl

/-- The alternatives of a text are **separable**. -/
theorem separable_alternatives (cs : List Char) : Separable (alternatives cs) :=
  ⟨alternativesFrom_ne_nil [] cs, getLast?_ne_of_mem_dropLast (by simp)⟩

/-- Reading and writing alternatives are **inverse** to each other, between all texts and the
separable lists of alternatives. -/
theorem alternatives_inverse :
    (∀ cs, joinAlternatives (alternatives cs) = cs) ∧
      (∀ as, Separable as → alternatives (joinAlternatives as) = as) ∧
      ∀ cs, Separable (alternatives cs) :=
  ⟨joinAlternatives_alternatives, fun _ h => alternatives_joinAlternatives h,
    separable_alternatives⟩

/-- Backslashes, escaped bars, an empty alternative and a backslash at the end are read back
as they were written. -/
theorem alternatives_inverse_backslashes :
    let as := ["\\|".toList, "a\\b|".toList, [], "c\\".toList]
    Separable as ∧ alternatives (joinAlternatives as) = as ∧
      joinAlternatives as = "\\\\||a\\b\\|||c\\".toList := by
  intro as
  have h : Separable as := by decide
  exact ⟨h, alternatives_inverse.2.1 as h, by decide⟩

end Listing
