import Listing.Proofs.Results
import Listing.Proofs.Text.Splitting
import Listing.Query.Parser

/-!
# What Keys Are Made Of

A key is a word with segments in brackets behind it. Every key has a text (`Key.text`), and a
key is **proper** (`Key.Proper`) if its word is there and none of its parts could be taken for
something else: no part has a bracket and no segment is blank. Proper keys are what
`Key.read` finds in texts, and each of them it finds in its own text.

## Main results

* `readSegments_eq_ok_iff` — the segments that are found are those that were written.
* `Key.read_eq_ok_iff` — reading undoes writing, for proper keys and for no others.
-/

namespace Listing.Query

/-! ### Segments -/

/-- A segment in its brackets. -/
def bracketed (segment : List Char) : List Char := '[' :: (segment ++ [']'])

/-- What can stand in brackets: a text that has no brackets and is not blank. -/
structure IsSegment (segment : List Char) : Prop where
  /-- No bracket is opened. -/
  opening : '[' ∉ segment
  /-- No bracket is closed. -/
  closing : ']' ∉ segment
  /-- Something is there. -/
  filled : ¬ ∀ c ∈ segment, Text.isBlank c

instance (segment : List Char) : Decidable (IsSegment segment) :=
  decidable_of_iff ('[' ∉ segment ∧ ']' ∉ segment ∧ ¬ ∀ c ∈ segment, Text.isBlank c)
    ⟨fun h => ⟨h.1, h.2.1, h.2.2⟩, fun h => ⟨h.opening, h.closing, h.filled⟩⟩

/-- A segment in brackets is found, and the others are behind it. -/
theorem readSegments_bracketed {segment : List Char} (h : IsSegment segment)
    (rest : List Char) :
    readSegments (bracketed segment ++ rest) = (readSegments rest).map (segment :: ·) := by
  have hclosing : ∀ c ∈ (']' :: rest).head?, c = ']' := by simp
  obtain ⟨htake, hdrop⟩ := Text.takeWhile_delimiter h.closing hclosing
  have htrim : (Text.trim segment).isEmpty = false := by
    rw [List.isEmpty_eq_false_iff, ne_eq, Text.trim_eq_nil_iff]
    exact h.filled
  have htext : bracketed segment ++ rest = '[' :: (segment ++ ']' :: rest) := by
    simp [bracketed]
  rw [htext, readSegments, if_neg (by simp)]
  split
  · next hnil =>
    rw [hdrop] at hnil
    cases hnil
  · next c rest' hcons =>
    rw [hdrop] at hcons
    obtain ⟨-, rfl⟩ := List.cons.inj hcons
    simp only [htake, if_neg h.opening, htrim]
    cases readSegments rest <;> rfl

/-- The segments that are found in a text are those that were **written**. -/
theorem readSegments_eq_ok_iff {cs : List Char} {found : List (List Char)} :
    readSegments cs = .ok found ↔
      (∀ s ∈ found, IsSegment s) ∧ found.flatMap bracketed = cs := by
  constructor
  · intro h
    fun_induction readSegments cs generalizing found with
    | case1 =>
        obtain rfl := Except.ok.inj h
        simp
    | case2 | case3 | case4 | case5 | case7 => cases h
    | case6 c inner hopen d rest hdrop segment hnested hfilled more hmore =>
        rename_i ih
        obtain rfl := Except.ok.inj h
        obtain ⟨hsegments, htext⟩ := ih hmore
        have hmem : d ∈ (inner.dropWhile (· ≠ ']')).head? := by
          rw [hdrop]
          rfl
        obtain rfl : d = ']' := Text.eq_of_mem_head?_dropWhile hmem
        have hinner : inner = segment ++ ']' :: rest := by
          rw [← hdrop, List.takeWhile_append_dropWhile]
        have hsegment : IsSegment segment := by
          refine ⟨hnested, Text.notMem_takeWhile _ _, ?_⟩
          rwa [List.isEmpty_iff, Text.trim_eq_nil_iff] at hfilled
        refine ⟨List.forall_mem_cons.mpr ⟨hsegment, hsegments⟩, ?_⟩
        rw [List.flatMap_cons, htext, not_not.mp hopen, hinner]
        simp [bracketed]
  · rintro ⟨hfound, rfl⟩
    induction found with
    | nil => rw [List.flatMap_nil, readSegments]
    | cons segment found ih =>
        obtain ⟨hsegment, hrest⟩ := List.forall_mem_cons.mp hfound
        rw [List.flatMap_cons, readSegments_bracketed hsegment, ih hrest]
        rfl

/-! ### Keys -/

/-- The text of a key: the word and the segments in their brackets. -/
def Key.text (k : Key) : List Char := k.head ++ k.segments.flatMap bracketed

/-- A **proper** key: its parts cannot be taken for something else. -/
structure Key.Proper (k : Key) : Prop where
  /-- There is a word. -/
  head_ne_nil : k.head ≠ []
  /-- The word opens no bracket. -/
  opening : '[' ∉ k.head
  /-- The word closes no bracket. -/
  closing : ']' ∉ k.head
  /-- Everything in brackets can stand there. -/
  segments : ∀ s ∈ k.segments, IsSegment s

/-- Reading **undoes** writing, for proper keys and for no others. -/
theorem Key.read_eq_ok_iff {cs : List Char} {k : Key} :
    Key.read cs = .ok k ↔ k.Proper ∧ k.text = cs := by
  constructor
  · intro h
    unfold Key.read at h
    simp only at h
    split at h
    · cases h
    · next hhead =>
      obtain ⟨found, hfound, rfl⟩ := map_eq_ok.mp h
      obtain ⟨hsegments, htext⟩ := readSegments_eq_ok_iff.mp hfound
      simp only [Bool.or_eq_true, List.isEmpty_iff, decide_eq_true_eq, not_or] at hhead
      refine ⟨⟨hhead.1, Text.notMem_takeWhile _ _, hhead.2, hsegments⟩, ?_⟩
      rw [Key.text, htext, List.takeWhile_append_dropWhile]
  · rintro ⟨hproper, rfl⟩
    have hrest : ∀ c ∈ (k.segments.flatMap bracketed).head?, c = '[' := by
      cases k.segments with
      | nil => simp
      | cons segment found => simp [bracketed]
    obtain ⟨htake, hdrop⟩ := Text.takeWhile_delimiter hproper.opening hrest
    have hhead : ¬ (k.head.isEmpty || decide (']' ∈ k.head)) = true := by
      simp [hproper.head_ne_nil, hproper.closing]
    simp only [Key.read, Key.text, htake, hdrop, if_neg hhead,
      readSegments_eq_ok_iff.mpr ⟨hproper.segments, rfl⟩]
    rfl

end Listing.Query
