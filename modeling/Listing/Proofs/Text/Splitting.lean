import Listing.Text.Blank
import Mathlib.Data.List.DropRight

/-!
# Texts That Are Split

A text can be put together from parts in two ways: with a separator between them, or with
blanks around them. Either way of writing is a relation between the parts and the text, and
the functions that split a text are the ways back: `List.splitOn` finds the parts of a
**joined** text and `words` those of a **spaced** one, and neither finds anything else.

## Main results

* `trim_trim`, `trim_eq_nil_iff`, `infix_trim_iff` — trimming takes away what is blank at the ends.
* `splitOn_eq_iff` — the fields of a text are the parts that it is joined from.
* `words_eq_iff` — the words of a text are those that it is spaced from.
* `words_trim` — blanks at the ends of a text are around no word.
-/

namespace Listing.Text

/-- What holds of every character of a text is decided along the text. `List.decidableBAll` is
preferred to the instance for statements about all characters, which tries each that there is. -/
instance (priority := high) decidableForallMem (p : Char → Prop) [DecidablePred p]
    (cs : List Char) : Decidable (∀ c ∈ cs, p c) :=
  List.decidableBAll p cs

/-- Digits are not blank. -/
theorem not_isBlank_of_isDigit {c : Char} (h : c.isDigit) : ¬ isBlank c := by
  have hrange : 48 ≤ c.toNat ∧ c.toNat ≤ 57 := by
    simpa [Char.isDigit, UInt32.le_iff_toNat_le] using h
  simp only [isBlank, Bool.or_eq_true, Bool.and_eq_true, decide_eq_true_eq, beq_iff_eq]
  omega

/-! ### Blanks at the ends -/

/-- Trimming the end takes away the blanks there. -/
theorem trimEnd_eq (cs : List Char) : trimEnd cs = cs.rdropWhile isBlank := rfl

/-- A trimmed text starts with no blank. -/
theorem trimStart_trim (cs : List Char) : trimStart (trim cs) = trim cs := by
  have hstart : trim cs <+: trimStart cs := by
    rw [trim, trimEnd_eq]
    exact List.rdropWhile_prefix _ _
  rw [trimStart, List.dropWhile_eq_self_iff]
  intro hlen
  rw [hstart.getElem hlen]
  exact List.dropWhile_get_zero_not _ _ (hlen.trans_le hstart.length_le)

/-- Trimming a text again leaves it. -/
theorem trim_trim (cs : List Char) : trim (trim cs) = trim cs := by
  have hend : trimEnd (trim cs) = trim cs := by
    rw [trim, trimEnd_eq, trimEnd_eq]
    exact List.rdropWhile_idempotent _ _
  rw [trim, trimStart_trim, hend]

/-- A text is a trimmed text between blanks. -/
theorem exists_trim (cs : List Char) : ∃ before after, cs = before ++ trim cs ++ after ∧
    (∀ c ∈ before, isBlank c) ∧ ∀ c ∈ after, isBlank c := by
  refine ⟨cs.takeWhile isBlank, (trimStart cs).rtakeWhile isBlank, ?_, ?_, ?_⟩
  · rw [List.append_assoc, trim, trimEnd_eq, List.rdropWhile_append_rtakeWhile, trimStart,
      List.takeWhile_append_dropWhile]
  · exact fun c hc => List.mem_takeWhile_imp hc
  · exact fun c hc => List.mem_rtakeWhile_imp hc

/-- A text is trimmed away if all of it is **blank**. -/
theorem trim_eq_nil_iff {cs : List Char} : trim cs = [] ↔ ∀ c ∈ cs, isBlank c := by
  constructor
  · intro h
    obtain ⟨before, after, hcs, hbefore, hafter⟩ := exists_trim cs
    rw [h, List.append_nil] at hcs
    rw [hcs]
    exact List.forall_mem_append.mpr ⟨hbefore, hafter⟩
  · intro h
    have hstart : trimStart cs = [] := List.dropWhile_eq_nil_iff.mpr h
    rw [trim, hstart]
    rfl

/-- What is left of a text is of the text. -/
theorem mem_of_mem_trim {c : Char} {cs : List Char} (h : c ∈ trim cs) : c ∈ cs := by
  obtain ⟨before, after, hcs, -, -⟩ := exists_trim cs
  rw [hcs]
  exact List.mem_append_left _ (List.mem_append_right _ h)

/-- A text without blanks is trimmed. -/
theorem trim_of_forall_not {cs : List Char} (h : ∀ c ∈ cs, ¬ isBlank c) : trim cs = cs := by
  obtain ⟨before, after, hcs, hbefore, hafter⟩ := exists_trim cs
  have hnone : ∀ {part : List Char}, (∀ c ∈ part, isBlank c) → (∀ c ∈ part, c ∈ cs) →
      part = [] := by
    intro part hpart hsub
    refine List.eq_nil_iff_forall_not_mem.mpr fun c hc => ?_
    exact h c (hsub c hc) (hpart c hc)
  obtain rfl : before = [] := hnone hbefore (by rw [hcs]; simp +contextual)
  obtain rfl : after = [] := hnone hafter (by rw [hcs]; simp +contextual)
  simpa using hcs.symm

/-- What begins with no blank is not reached by taking blanks away in front of it. -/
theorem dropWhile_append_of_head {p : Char → Bool} {rest : List Char}
    (h : ∀ c ∈ rest.head?, p c = false) (before : List Char) :
    (before ++ rest).dropWhile p = before.dropWhile p ++ rest := by
  have hrest : rest.dropWhile p = rest := by
    cases rest with
    | nil => rfl
    | cons c rest => rw [List.dropWhile_cons_of_neg (by simp [h c rfl])]
  rw [List.dropWhile_append, hrest]
  split
  · next hempty => rw [List.isEmpty_iff.mp hempty, List.nil_append]
  · rfl

/-- A text that neither begins nor ends with a blank stands somewhere in another one just if it
stands there **between the blanks** at the ends. -/
theorem infix_trim_iff {part cs : List Char} (hfirst : ∀ c ∈ part.head?, isBlank c = false)
    (hlast : ∀ c ∈ part.getLast?, isBlank c = false) : part <:+: trim cs ↔ part <:+: cs := by
  constructor
  · intro h
    obtain ⟨before, after, hcs, -, -⟩ := exists_trim cs
    rw [hcs]
    exact h.trans ⟨before, after, rfl⟩
  · rintro ⟨before, after, rfl⟩
    by_cases hnil : part = []
    · subst hnil
      exact List.nil_infix
    have hstart : trimStart (before ++ part ++ after) = trimStart before ++ part ++ after := by
      have hhead : ∀ c ∈ (part ++ after).head?, isBlank c = false := by
        obtain ⟨c, part, rfl⟩ := List.exists_cons_of_ne_nil hnil
        exact hfirst
      rw [List.append_assoc, List.append_assoc]
      exact dropWhile_append_of_head hhead before
    have hend : trimEnd (trimStart before ++ part ++ after) =
        trimStart before ++ part ++ trimEnd after := by
      have hhead : ∀ c ∈ (part.reverse ++ (trimStart before).reverse).head?, isBlank c = false := by
        rw [List.head?_append_of_ne_nil _ (by simpa using hnil), List.head?_reverse]
        exact hlast
      simp only [trimEnd, trimStart, List.reverse_append] at hhead ⊢
      rw [dropWhile_append_of_head hhead]
      simp
    rw [trim, hstart, hend]
    exact ⟨trimStart before, trimEnd after, rfl⟩

/-- A trimmed text ends with no blank. -/
theorem isBlank_getLast?_trim {c : Char} {cs : List Char} (h : c ∈ (trim cs).getLast?) :
    isBlank c = false := by
  have hhead := List.head?_dropWhile_not isBlank (trimStart cs).reverse
  rw [trim, trimEnd, List.getLast?_reverse, trimStart] at h
  rw [h] at hhead
  exact hhead

/-! ### Runs of characters -/

section Run

variable {p : Char → Bool} {run rest : List Char}

/-- A run of characters of a kind ends in front of a character of another kind. -/
theorem takeWhile_run (hrun : ∀ c ∈ run, p c) (hrest : ∀ c ∈ rest.head?, p c = false) :
    (run ++ rest).takeWhile p = run := by
  rw [List.takeWhile_append_of_pos hrun]
  cases rest with
  | nil => simp
  | cons c rest => simp [hrest c rfl]

/-- Behind a run of characters of a kind is the character of another kind. -/
theorem dropWhile_run (hrun : ∀ c ∈ run, p c) (hrest : ∀ c ∈ rest.head?, p c = false) :
    (run ++ rest).dropWhile p = rest := by
  rw [List.dropWhile_append_of_pos hrun]
  cases rest with
  | nil => rfl
  | cons c rest => simp [hrest c rfl]

end Run

/-- There is no delimiter in front of the first one. -/
theorem notMem_takeWhile (delimiter : Char) (cs : List Char) :
    delimiter ∉ cs.takeWhile (· ≠ delimiter) := by
  intro h
  simpa using List.mem_takeWhile_imp h

/-- What is in front of the first delimiter is read up to it. -/
theorem takeWhile_delimiter {delimiter : Char} {front rest : List Char} (h : delimiter ∉ front)
    (hrest : ∀ c ∈ rest.head?, c = delimiter) :
    (front ++ rest).takeWhile (· ≠ delimiter) = front ∧
      (front ++ rest).dropWhile (· ≠ delimiter) = rest := by
  have hfront : ∀ c ∈ front, decide (c ≠ delimiter) = true := by
    intro c hc
    exact decide_eq_true (ne_of_mem_of_not_mem hc h)
  have hdelimiter : ∀ c ∈ rest.head?, decide (c ≠ delimiter) = false := by
    intro c hc
    simp [hrest c hc]
  exact ⟨takeWhile_run hfront hdelimiter, dropWhile_run hfront hdelimiter⟩

/-- What is left behind the front of a text starts with the delimiter. -/
theorem eq_of_mem_head?_dropWhile {delimiter c : Char} {cs : List Char}
    (h : c ∈ (cs.dropWhile (· ≠ delimiter)).head?) : c = delimiter := by
  have hnot := List.head?_dropWhile_not (· ≠ delimiter) cs
  rw [Option.mem_def.mp h] at hnot
  simpa using hnot

/-! ### Joined texts -/

/-- A text is **joined** from parts: they stand between the occurrences of a separator. -/
structure Joined (separator : Char) (parts : List (List Char)) (cs : List Char) : Prop where
  /-- There is a part, if only an empty one. -/
  ne_nil : parts ≠ []
  /-- The separator is in no part. -/
  notMem : ∀ part ∈ parts, separator ∉ part
  /-- Nothing but the parts and separators is there. -/
  eq : cs = [separator].intercalate parts

/-- No field has a separator. -/
theorem notMem_of_mem_splitOn {separator : Char} {cs : List Char} :
    ∀ field ∈ cs.splitOn separator, separator ∉ field := by
  induction cs with
  | nil => simp
  | cons c cs ih =>
      rw [List.splitOn_cons_eq_if_modifyHead]
      split
      · exact List.forall_mem_cons.mpr ⟨List.not_mem_nil, ih⟩
      · next hc =>
        obtain ⟨field, fields, hfields⟩ :=
          List.exists_cons_of_ne_nil (List.splitOn_ne_nil separator cs)
        rw [hfields] at ih ⊢
        obtain ⟨hfield, hrest⟩ := List.forall_mem_cons.mp ih
        refine List.forall_mem_cons.mpr ⟨?_, hrest⟩
        exact List.not_mem_cons_of_ne_of_not_mem (fun h => hc (beq_iff_eq.mpr h.symm)) hfield

/-- The fields of a text are the parts that it is **joined** from. -/
theorem splitOn_eq_iff {separator : Char} {cs : List Char} {parts : List (List Char)} :
    cs.splitOn separator = parts ↔ Joined separator parts cs := by
  constructor
  · rintro rfl
    exact ⟨List.splitOn_ne_nil _ _, notMem_of_mem_splitOn, (List.intercalate_splitOn _).symm⟩
  · rintro ⟨hne, hparts, rfl⟩
    exact List.splitOn_intercalate separator hparts hne

/-- What is in a joined text is the separator or in a part. -/
theorem mem_intercalate {separator c : Char} {parts : List (List Char)}
    (h : c ∈ [separator].intercalate parts) : c = separator ∨ ∃ part ∈ parts, c ∈ part := by
  induction parts with
  | nil => cases h
  | cons part rest ih =>
      cases rest with
      | nil =>
          rw [List.intercalate_singleton] at h
          exact .inr ⟨part, List.mem_cons_self, h⟩
      | cons other rest =>
          rw [List.intercalate_cons_cons, List.append_assoc, List.mem_append, List.mem_append,
            List.mem_singleton] at h
          rcases h with h | h | h
          · exact .inr ⟨part, List.mem_cons_self, h⟩
          · exact .inl h
          · rcases ih h with hsep | ⟨p, hp, hc⟩
            · exact .inl hsep
            · exact .inr ⟨p, List.mem_cons_of_mem _ hp, hc⟩

/-- All of a part is in the text that is joined from it. -/
theorem mem_intercalate_of_mem {separator c : Char} {part : List Char}
    {parts : List (List Char)} (hpart : part ∈ parts) (hc : c ∈ part) :
    c ∈ [separator].intercalate parts := by
  induction parts with
  | nil => cases hpart
  | cons first rest ih =>
      cases rest with
      | nil =>
          rw [List.mem_singleton] at hpart
          rwa [List.intercalate_singleton, ← hpart]
      | cons other rest =>
          rw [List.intercalate_cons_cons, List.append_assoc]
          rcases List.mem_cons.mp hpart with rfl | hpart
          · exact List.mem_append_left _ hc
          · exact List.mem_append_right _ (List.mem_append_right _ (ih hpart))

/-! ### Spaced texts -/

/-- A text is **spaced** from words: there are blanks between them, and perhaps around. -/
inductive Spaced : List (List Char) → List Char → Prop
  /-- There is no word. -/
  | nil {cs : List Char} (h : ∀ c ∈ cs, isBlank c) : Spaced [] cs
  /-- The text goes on behind a word, with a blank if at all. -/
  | cons {before word rest : List Char} {words : List (List Char)}
      (hbefore : ∀ c ∈ before, isBlank c) (hne : word ≠ []) (hword : ∀ c ∈ word, ¬ isBlank c)
      (hrest : ∀ c, rest.head? = some c → isBlank c) (h : Spaced words rest) :
      Spaced (word :: words) (before ++ word ++ rest)

/-- A blank in front of a spaced text is around no word. -/
theorem Spaced.blank {words : List (List Char)} {cs : List Char} (h : Spaced words cs) {c : Char}
    (hc : isBlank c) : Spaced words (c :: cs) := by
  cases h with
  | nil h => exact .nil (List.forall_mem_cons.mpr ⟨hc, h⟩)
  | @cons before word rest words hbefore hne hword hrest h =>
      exact @Spaced.cons (c :: before) _ _ _ (List.forall_mem_cons.mpr ⟨hc, hbefore⟩) hne hword
        hrest h

/-- What is in a word is in the text. -/
theorem Spaced.mem {words : List (List Char)} {cs : List Char} (h : Spaced words cs)
    {word : List Char} (hword : word ∈ words) {c : Char} (hc : c ∈ word) : c ∈ cs := by
  induction h with
  | nil h => cases hword
  | cons hbefore hne hblank hrest h ih =>
      rcases List.mem_cons.mp hword with rfl | hword
      · exact List.mem_append_left _ (List.mem_append_right _ hc)
      · exact List.mem_append_right _ (ih hword)

/-- Blanks in front of a text are around no word. -/
theorem words_append_of_blank {before : List Char} (h : ∀ c ∈ before, isBlank c)
    (cs : List Char) : words (before ++ cs) = words cs := by
  induction before with
  | nil => rfl
  | cons c before ih =>
      obtain ⟨hc, hbefore⟩ := List.forall_mem_cons.mp h
      rw [← ih hbefore, words, List.cons_append, wordsFrom, if_pos hc]
      rfl

/-- A text of blanks ends the word being read. -/
theorem wordsFrom_of_blank (run : List Char) {cs : List Char} (h : ∀ c ∈ cs, isBlank c) :
    wordsFrom run cs = wordsFrom run [] := by
  cases cs with
  | nil => rfl
  | cons c cs =>
      obtain ⟨hc, hcs⟩ := List.forall_mem_cons.mp h
      have hnone : wordsFrom [] cs = [] := by
        have hwords := words_append_of_blank hcs []
        rwa [List.append_nil] at hwords
      simp only [wordsFrom, if_pos hc, hnone]

/-- Blanks behind a text are around no word. -/
theorem wordsFrom_append_of_blank {after : List Char} (h : ∀ c ∈ after, isBlank c) :
    ∀ cs run : List Char, wordsFrom run (cs ++ after) = wordsFrom run cs
  | [], run => wordsFrom_of_blank run h
  | c :: cs, run => by
      rw [List.cons_append, wordsFrom, wordsFrom, wordsFrom_append_of_blank h cs,
        wordsFrom_append_of_blank h cs]

/-- Blanks at the ends of a text are around no word. -/
theorem words_trim (cs : List Char) : words (trim cs) = words cs := by
  obtain ⟨before, after, hcs, hbefore, hafter⟩ := exists_trim cs
  conv_rhs => rw [hcs, List.append_assoc, words_append_of_blank hbefore]
  exact (wordsFrom_append_of_blank hafter _ _).symm

/-- A word is read to its end. -/
theorem wordsFrom_word {word : List Char} (h : ∀ c ∈ word, ¬ isBlank c) (rest : List Char) :
    ∀ run, wordsFrom run (word ++ rest) = wordsFrom (word.reverse ++ run) rest := by
  induction word with
  | nil => exact fun _ => rfl
  | cons c word ih =>
      obtain ⟨hc, hword⟩ := List.forall_mem_cons.mp h
      intro run
      rw [List.cons_append, wordsFrom, if_neg hc, ih hword, List.reverse_cons, List.append_assoc]
      rfl

/-- A word ends where the text goes on with a blank. -/
theorem wordsFrom_end {run : List Char} (hne : run ≠ []) {rest : List Char}
    (h : ∀ c, rest.head? = some c → isBlank c) :
    wordsFrom run rest = run.reverse :: words rest := by
  have hrun : run.isEmpty = false := List.isEmpty_eq_false_iff.mpr hne
  cases rest with
  | nil => simp [words, wordsFrom, hne]
  | cons c rest => simp [words, wordsFrom, h c rfl, hne]

/-- The words of a text with some of a word in front are those that it is spaced from. -/
theorem spaced_wordsFrom (cs : List Char) : ∀ {run : List Char}, (∀ c ∈ run, ¬ isBlank c) →
    Spaced (wordsFrom run cs) (run.reverse ++ cs) := by
  induction cs with
  | nil =>
      intro run hrun
      by_cases hne : run = []
      · subst hne
        exact .nil (by simp)
      · have hword : ∀ c ∈ run.reverse, ¬ isBlank c := by simpa using hrun
        have hspaced := @Spaced.cons [] _ [] _ (by simp) (List.reverse_ne_nil_iff.mpr hne) hword
          (by simp) (.nil (by simp))
        simpa [wordsFrom, hne] using hspaced
  | cons c cs ih =>
      intro run hrun
      by_cases hc : isBlank c
      · have hrest : Spaced (wordsFrom [] cs) (c :: cs) := (ih (by simp)).blank hc
        by_cases hne : run = []
        · subst hne
          simpa [wordsFrom, hc] using hrest
        · have hword : ∀ c ∈ run.reverse, ¬ isBlank c := by simpa using hrun
          have hspaced := @Spaced.cons [] _ _ _ (by simp) (List.reverse_ne_nil_iff.mpr hne) hword
            (by simpa using hc) hrest
          simpa [wordsFrom, hc, hne] using hspaced
      · have hrun' : ∀ c' ∈ c :: run, ¬ isBlank c' := List.forall_mem_cons.mpr ⟨hc, hrun⟩
        have hspaced := ih hrun'
        rw [wordsFrom, if_neg hc]
        rwa [List.reverse_cons, List.append_assoc] at hspaced

/-- The words of a text are those that it is **spaced** from. -/
theorem words_eq_iff {cs : List Char} {found : List (List Char)} :
    words cs = found ↔ Spaced found cs := by
  constructor
  · rintro rfl
    exact spaced_wordsFrom cs (by simp)
  · intro h
    induction h with
    | nil h => exact wordsFrom_of_blank [] h
    | @cons before word rest words hbefore hne hword hrest h ih =>
        rw [List.append_assoc, words_append_of_blank hbefore, Text.words, wordsFrom_word hword,
          wordsFrom_end (by simpa using hne) hrest, ih]
        simp

end Listing.Text
