import Listing.Proofs.Text.Splitting
import Listing.Settings.Pool

/-!
# Certificates of a Bundle

A bundle is a text with certificates and perhaps other lines around them. A **block** of it reaches
from a line that opens a certificate to the next marker line, if that closes one. A certificate that
is opened again before it is closed begins there, and what is closed without having been opened is
no certificate.

`Certificate.split` goes over the lines once, and all that it knows of the lines behind it is what
**stands open** there. That is enough for the blocks of the bundle, and for no other pieces. What it
finds is **complete**, so that nothing is lost when it is written down and read again.

## Main results

* `standsOpen_append` — what one more line does to what stands open.
* `splitFrom_eq_blocks` — from any line on, the blocks that end there are found.
* `IsBlock.isComplete`, `lines_document` — a block is complete, and a document has the lines that
  it is made of.
* `certificatesOf_eq_blocks` — the certificates of a bundle are its blocks, and they are found again
  in all of them put together.
-/

namespace Listing.Settings.Certificate

/-! ### Blocks -/

/-- A line that **opens** a certificate. -/
def Opens (line : List Char) : Prop := opening <:+: line

/-- A line that **closes** a certificate and opens none. -/
def Closes (line : List Char) : Prop := closing <:+: line ∧ ¬ Opens line

/-- A **marker** line. -/
def IsMarker (line : List Char) : Prop := opening <:+: line ∨ closing <:+: line

/-- A **block** reaches from a line that opens a certificate to one that closes it, and no marker
is between them. -/
structure IsBlock (ls : List (List Char)) (first last : Nat) : Prop where
  /-- The first line is in front of the last one. -/
  lt : first < last
  /-- The first line opens a certificate. -/
  opens : ∃ line, ls[first]? = some line ∧ Opens line
  /-- The last line closes it. -/
  closes : ∃ line, ls[last]? = some line ∧ Closes line
  /-- The lines between them are no markers. -/
  unmarked : ∀ i line, first < i → i < last → ls[i]? = some line → ¬ IsMarker line

/-- All the **blocks** of some lines, in order. -/
structure AreBlocks (ls : List (List Char)) (blocks : List (Nat × Nat)) : Prop where
  /-- Each block ends behind the one before. -/
  ordered : blocks.Pairwise (·.2 < ·.2)
  /-- All blocks are there and nothing else. -/
  mem_iff : ∀ b, b ∈ blocks ↔ IsBlock ls b.1 b.2

/-- The trimmed lines of a block. -/
def blockLines (ls : List (List Char)) (b : Nat × Nat) : List (List Char) :=
  ((ls.take (b.2 + 1)).drop b.1).map Text.trim

/-! ### What stands open -/

/-- A certificate **stands open** behind some lines: the last marker in them is a line that opens
one. -/
structure StandsOpen (ls : List (List Char)) (first : Nat) : Prop where
  /-- The line opens a certificate. -/
  opens : ∃ line, ls[first]? = some line ∧ Opens line
  /-- The lines behind it are no markers. -/
  unmarked : ∀ i line, first < i → ls[i]? = some line → ¬ IsMarker line

/-- A line that opens a certificate is a marker. -/
theorem Opens.isMarker {line : List Char} (h : Opens line) : IsMarker line := .inl h

/-- A marker that opens no certificate closes one. -/
theorem closes_iff {line : List Char} : Closes line ↔ IsMarker line ∧ ¬ Opens line := by
  constructor
  · rintro ⟨hcloses, hopens⟩
    exact ⟨.inr hcloses, hopens⟩
  · rintro ⟨hmarker, hopens⟩
    exact ⟨hmarker.resolve_left hopens, hopens⟩

variable {ls done rest : List (List Char)} {line : List Char} {first last : Nat}

/-- **One** certificate at most stands open. -/
theorem StandsOpen.unique {other : Nat} (h : StandsOpen ls first) (h' : StandsOpen ls other) :
    first = other := by
  obtain ⟨line, hline, hopens⟩ := h.opens
  obtain ⟨line', hline', hopens'⟩ := h'.opens
  rcases Nat.lt_trichotomy first other with hlt | heq | hgt
  · exact absurd hopens'.isMarker (h.unmarked other line' hlt hline')
  · exact heq
  · exact absurd hopens.isMarker (h'.unmarked first line hgt hline)

/-- What stands open begins at one of the lines. -/
theorem StandsOpen.lt_length (h : StandsOpen ls first) : first < ls.length := by
  obtain ⟨line, hline, -⟩ := h.opens
  exact (List.getElem?_eq_some_iff.mp hline).1

/-- A further line that opens a certificate is all that **stands open** then; behind any other
marker nothing does, and what is no marker changes nothing. -/
theorem standsOpen_append : StandsOpen (done ++ [line]) first ↔
    (Opens line ∧ first = done.length) ∨ (¬ IsMarker line ∧ StandsOpen done first) := by
  have hlast : (done ++ [line])[done.length]? = some line := by simp
  have hfront : ∀ {i}, i < done.length → (done ++ [line])[i]? = done[i]? :=
    fun hi => List.getElem?_append_left hi
  constructor
  · intro h
    have hlength := h.lt_length
    rw [List.length_append, List.length_singleton] at hlength
    rcases Nat.lt_succ_iff_lt_or_eq.mp hlength with hlt | rfl
    · refine .inr ⟨h.unmarked _ line hlt hlast, ⟨hfront hlt ▸ h.opens, fun i l hi hl => ?_⟩⟩
      have hil : i < done.length := (List.getElem?_eq_some_iff.mp hl).1
      exact h.unmarked i l hi ((hfront hil).trans hl)
    · obtain ⟨l, hl, hopens⟩ := h.opens
      obtain rfl : line = l := Option.some.inj (hlast.symm.trans hl)
      exact .inl ⟨hopens, rfl⟩
  · rintro (⟨hopens, rfl⟩ | ⟨hmarker, h⟩)
    · refine ⟨⟨line, hlast, hopens⟩, fun i l hi hl => ?_⟩
      have hil := (List.getElem?_eq_some_iff.mp hl).1
      rw [List.length_append, List.length_singleton] at hil
      omega
    · refine ⟨(hfront h.lt_length) ▸ h.opens, fun i l hi hl => ?_⟩
      have hil := (List.getElem?_eq_some_iff.mp hl).1
      rw [List.length_append, List.length_singleton] at hil
      rcases Nat.lt_succ_iff_lt_or_eq.mp hil with hlt | rfl
      · exact h.unmarked i l hi ((hfront hlt).symm.trans hl)
      · obtain rfl : line = l := Option.some.inj (hlast.symm.trans hl)
        exact hmarker

/-- A block ends where a line **closes** what stands open in front of it. -/
theorem isBlock_iff : IsBlock ls first last ↔
    (∃ line, ls[last]? = some line ∧ Closes line) ∧ StandsOpen (ls.take last) first := by
  constructor
  · rintro ⟨hlt, hopens, hcloses, hunmarked⟩
    refine ⟨hcloses, ⟨?_, fun i line hi hline => ?_⟩⟩
    · rwa [List.getElem?_take_of_lt hlt]
    · rw [List.getElem?_take] at hline
      split at hline
      · next hlast => exact hunmarked i line hi hlast hline
      · cases hline
  · rintro ⟨hcloses, hopen⟩
    have hlt : first < last := hopen.lt_length.trans_le (List.length_take_le _ _)
    refine ⟨hlt, ?_, hcloses, fun i line hi hlast hline => ?_⟩
    · have hopens := hopen.opens
      rwa [List.getElem?_take_of_lt hlt] at hopens
    · exact hopen.unmarked i line hi (by rwa [List.getElem?_take_of_lt hlast])

/-- Whether a block ends at a line hangs on that line and on what **stands open** in front of it. -/
theorem isBlock_append : IsBlock (done ++ line :: rest) first done.length ↔
    Closes line ∧ StandsOpen done first := by
  rw [isBlock_iff, List.take_left]
  simp

/-! ### Finding blocks -/

/-- A text stands somewhere in a line just if it is a **part** of it. -/
theorem occursIn_iff {part cs : List Char} : occursIn part cs ↔ part <:+: cs := by
  induction cs with
  | nil => rw [occursIn, List.isEmpty_iff, List.infix_nil]
  | cons c cs ih =>
      rw [occursIn, Bool.or_eq_true, List.isPrefixOf_iff_prefix, ih, List.infix_cons_iff]

instance (line : List Char) : Decidable (Opens line) := decidable_of_iff _ occursIn_iff

instance (line : List Char) : Decidable (Closes line) :=
  decidable_of_iff (occursIn closing line ∧ ¬ Opens line) (and_congr_left' occursIn_iff)

/-- The lines of the certificate that is open behind one more line. -/
def openBehind (current : Option (List (List Char))) (line : List Char) :
    Option (List (List Char)) :=
  if Opens line then some [Text.trim line]
  else if Closes line then none
  else current.map (Text.trim line :: ·)

/-- The certificate that ends at a line, if one does. -/
def endingAt (current : Option (List (List Char))) (line : List Char) : List (List (List Char)) :=
  if Closes line then (current.map fun before => (Text.trim line :: before).reverse).toList else []

/-- The certificates of some lines are the one that ends at the first of them and those of the
others. -/
theorem splitFrom_cons (current : Option (List (List Char))) (line : List Char)
    (rest : List (List Char)) : splitFrom current (line :: rest) =
      endingAt current line ++ splitFrom (openBehind current line) rest := by
  rw [splitFrom.eq_def, endingAt, openBehind]
  simp only [occursIn_iff]
  by_cases hopens : Opens line
  · have hopening : opening <:+: line := hopens
    have hcloses : ¬ Closes line := fun h => h.2 hopens
    rw [if_pos hopening, if_neg hcloses, if_pos hopens, List.nil_append]
  have hopening : ¬ opening <:+: line := hopens
  by_cases hclosing : closing <:+: line
  · have hcloses : Closes line := ⟨hclosing, hopens⟩
    rw [if_neg hopening, if_pos hclosing, if_pos hcloses, if_neg hopens, if_pos hcloses]
    cases current <;> rfl
  · have hcloses : ¬ Closes line := fun h => hclosing h.1
    rw [if_neg hopening, if_neg hclosing, if_neg hcloses, if_neg hopens, if_neg hcloses,
      List.nil_append]

/-- What is **held** behind some lines are the trimmed lines of what stands open there, last one
first. -/
inductive Holds (done : List (List Char)) : Option (List (List Char)) → Prop
  /-- Nothing stands open. -/
  | nothing (h : ∀ first, ¬ StandsOpen done first) : Holds done none
  /-- Something stands open. -/
  | lines {first : Nat} (h : StandsOpen done first) :
    Holds done (some ((done.drop first).map Text.trim).reverse)

variable {current : Option (List (List Char))}

/-- What is held behind one more line is what stands open there. -/
theorem Holds.openBehind (h : Holds done current) (line : List Char) :
    Holds (done ++ [line]) (openBehind current line) := by
  rw [Certificate.openBehind]
  by_cases hopens : Opens line
  · have hstands : StandsOpen (done ++ [line]) done.length :=
      standsOpen_append.mpr (.inl ⟨hopens, rfl⟩)
    have hheld := Holds.lines hstands
    rw [List.drop_left] at hheld
    rw [if_pos hopens]
    exact hheld
  by_cases hcloses : Closes line
  · rw [if_neg hopens, if_pos hcloses]
    refine .nothing fun first hfirst => ?_
    rcases standsOpen_append.mp hfirst with ⟨hopens', -⟩ | ⟨hmarker, -⟩
    · exact hopens hopens'
    · exact hmarker (closes_iff.mp hcloses).1
  · have hmarker : ¬ IsMarker line := fun hmarker => hcloses (closes_iff.mpr ⟨hmarker, hopens⟩)
    rw [if_neg hopens, if_neg hcloses]
    cases h with
    | nothing h =>
        refine .nothing fun first hfirst => ?_
        rcases standsOpen_append.mp hfirst with ⟨hopens', -⟩ | ⟨-, hfirst⟩
        · exact hopens hopens'
        · exact h first hfirst
    | @lines first h =>
        have hheld := Holds.lines (standsOpen_append.mpr (.inr ⟨hmarker, h⟩))
        rw [List.drop_append_of_le_length h.lt_length.le, List.map_append, List.reverse_append]
          at hheld
        exact hheld

/-- What ends at a line is the **block** that ends there. -/
theorem Holds.exists_endingAt (h : Holds done current) (line : List Char)
    (rest : List (List Char)) : ∃ blocks : List (Nat × Nat), blocks.Pairwise (·.2 < ·.2) ∧
      (∀ b, b ∈ blocks ↔ b.2 = done.length ∧ IsBlock (done ++ line :: rest) b.1 b.2) ∧
      endingAt current line = blocks.map (blockLines (done ++ line :: rest)) := by
  have hblock : ∀ b : Nat × Nat, b.2 = done.length ∧ IsBlock (done ++ line :: rest) b.1 b.2 ↔
      b.2 = done.length ∧ Closes line ∧ StandsOpen done b.1 := by
    rintro ⟨first, last⟩
    refine and_congr_right fun hlast => ?_
    simp only at hlast
    rw [hlast, isBlock_append]
  simp only [hblock]
  rw [endingAt]
  by_cases hcloses : Closes line
  · rw [if_pos hcloses]
    cases h with
    | nothing h => exact ⟨[], .nil, by simp [h], rfl⟩
    | @lines first h =>
        refine ⟨[(first, done.length)], List.pairwise_singleton _ _, ?_, ?_⟩
        · rintro ⟨other, last⟩
          rw [List.mem_singleton, Prod.mk.injEq]
          constructor
          · rintro ⟨rfl, rfl⟩
            exact ⟨rfl, hcloses, h⟩
          · rintro ⟨hlast, -, hother⟩
            exact ⟨hother.unique h, hlast⟩
        · have htake : (done ++ line :: rest).take (done.length + 1) = done ++ [line] := by
            rw [List.append_cons, List.take_left' (by simp)]
          rw [List.map_singleton, blockLines, htake,
            List.drop_append_of_le_length h.lt_length.le]
          simp
  · rw [if_neg hcloses]
    exact ⟨[], .nil, by simp [hcloses], rfl⟩

/-- From any line on, the **blocks** that end there or later are found, in order. -/
theorem splitFrom_eq_blocks (h : Holds done current) (rest : List (List Char)) :
    ∃ blocks : List (Nat × Nat), blocks.Pairwise (·.2 < ·.2) ∧
      (∀ b, b ∈ blocks ↔ done.length ≤ b.2 ∧ IsBlock (done ++ rest) b.1 b.2) ∧
      splitFrom current rest = blocks.map (blockLines (done ++ rest)) := by
  -- The lines to come get fewer, and what is held is all that is known of those behind.
  induction rest generalizing done current with
  | nil =>
      refine ⟨[], .nil, fun b => ?_, rfl⟩
      rw [List.append_nil]
      refine iff_of_false List.not_mem_nil ?_
      rintro ⟨hle, hblock⟩
      obtain ⟨line, hline, -⟩ := hblock.closes
      exact absurd (List.getElem?_eq_some_iff.mp hline).1 (Nat.not_lt.mpr hle)
  | cons line rest ih =>
      obtain ⟨here, hhere, hmem, hending⟩ := h.exists_endingAt line rest
      obtain ⟨later, hlater, hmem', hsplit⟩ := ih (h.openBehind line)
      rw [List.append_assoc, List.singleton_append] at hmem' hsplit
      simp only [List.length_append, List.length_singleton] at hmem'
      refine ⟨here ++ later, ?_, fun b => ?_, ?_⟩
      · refine List.pairwise_append.mpr ⟨hhere, hlater, fun b hb b' hb' => ?_⟩
        have hlast := ((hmem b).mp hb).1
        have hlast' := ((hmem' b').mp hb').1
        omega
      · rw [List.mem_append, hmem, hmem', ← or_and_right]
        exact and_congr_left' (by omega)
      · rw [splitFrom_cons, hending, hsplit, List.map_append]

/-- The certificates of a text are **the blocks** of its lines. -/
theorem split_eq_blocks (text : String) : ∃ blocks, AreBlocks (lines text.toList) blocks ∧
    split text = blocks.map (blockLines (lines text.toList)) := by
  have hnothing : Holds [] none := .nothing fun first h => by simpa using h.lt_length
  obtain ⟨blocks, hordered, hmem, hsplit⟩ := splitFrom_eq_blocks hnothing (lines text.toList)
  exact ⟨blocks, ⟨hordered, fun b => by simpa using hmem b⟩, hsplit⟩

/-! ### Documents -/

/-- The lines of a text have **no line breaks**. -/
theorem notMem_of_mem_lines {cs : List Char} (h : line ∈ lines cs) : '\n' ∉ line := by
  have hfields : ∀ field ∈ List.splitOn '\n' cs, '\n' ∉ field := Text.notMem_of_mem_splitOn
  have hended : ∀ line ∈ (List.splitOn '\n' cs).dropLast.map dropReturn, '\n' ∉ line := by
    refine List.forall_mem_map.mpr fun field hfield hbreak => ?_
    refine hfields field ((List.dropLast_prefix _).subset hfield) ?_
    rw [dropReturn] at hbreak
    split at hbreak
    · exact (List.dropLast_prefix field).subset hbreak
    · exact hbreak
  rw [lines] at h
  split at h
  · exact hended line h
  · exact hended line h
  · next hlast =>
    rcases List.mem_append.mp h with h | h
    · exact hended line h
    · rw [List.mem_singleton.mp h]
      exact hfields _ (List.mem_of_getLast? hlast)

/-- A line that a document **keeps** as it is. -/
def Kept (line : List Char) : Prop := '\n' ∉ line ∧ Text.trim line = line

/-- A kept line has no carriage return at its end. -/
theorem Kept.dropReturn (h : Kept line) : dropReturn line = line := by
  rw [Certificate.dropReturn]
  split
  · next hlast =>
    rw [← h.2] at hlast
    exact absurd (Text.isBlank_getLast?_trim hlast) (by decide)
  · rfl

/-- Lines with their ends are these lines and an empty one behind them, with line breaks
between. -/
theorem flatMap_break (ls : List (List Char)) :
    ls.flatMap (· ++ ['\n']) = ['\n'].intercalate (ls ++ [[]]) := by
  induction ls with
  | nil => rfl
  | cons line ls ih =>
      rw [List.flatMap_cons, ih]
      cases ls with
      | nil => simp
      | cons other ls => simp [List.intercalate_cons_cons]

/-- Documents have **the lines** that they are made of. -/
theorem lines_document {pieces : List (List (List Char))}
    (h : ∀ piece ∈ pieces, ∀ line ∈ piece, Kept line) :
    lines (String.join (pieces.map document)).toList = pieces.flatten := by
  have hkept : ∀ line ∈ pieces.flatten, Kept line := by
    intro line hline
    obtain ⟨piece, hpiece, hline⟩ := List.mem_flatten.mp hline
    exact h piece hpiece line hline
  have htext : (String.join (pieces.map document)).toList =
      pieces.flatten.flatMap (· ++ ['\n']) := by
    rw [String.toList_join, List.flatMap_map, List.flatten_eq_flatMap, List.flatMap_assoc]
    simp only [document, String.toList_ofList, id]
  -- Behind the last line break is an empty line, which does not count.
  have hsplit : List.splitOn '\n' (pieces.flatten.flatMap (· ++ ['\n'])) =
      pieces.flatten ++ [[]] := by
    refine Text.splitOn_eq_iff.mpr ⟨by simp, fun line hline => ?_, flatMap_break _⟩
    rcases List.mem_append.mp hline with hline | hline
    · exact (hkept line hline).1
    · rw [List.mem_singleton.mp hline]
      exact List.not_mem_nil
  have hreturn : pieces.flatten.map dropReturn = pieces.flatten :=
    (List.map_congr_left fun line hline => (hkept line hline).dropReturn).trans (List.map_id' _)
  rw [htext, lines, hsplit, List.dropLast_concat, List.getLast?_concat, hreturn]

/-! ### Complete certificates -/

/-- A **complete** certificate: the first line opens it, only the last one closes it, and a document
keeps all of them. -/
structure IsComplete (piece : List (List Char)) : Prop where
  /-- A document keeps the lines. -/
  kept : ∀ line ∈ piece, Kept line
  /-- The first line and the last one are the only markers. -/
  shape : ∃ first between last, piece = first :: between ++ [last] ∧ Opens first ∧ Closes last ∧
    ∀ line ∈ between, ¬ IsMarker line

/-- What begins and ends with a dash stands in a line just if it stands there **between the
blanks** around it. -/
theorem infix_trim_iff_of_dashes {part : List Char} (hfirst : part.head? = some '-')
    (hlast : part.getLast? = some '-') : part <:+: Text.trim line ↔ part <:+: line := by
  have hdash : ∀ c ∈ some '-', Text.isBlank c = false := by
    intro c hc
    obtain rfl : '-' = c := Option.some.inj hc
    rfl
  refine Text.infix_trim_iff ?_ ?_
  · rw [hfirst]
    exact hdash
  · rw [hlast]
    exact hdash

/-- Blanks around a line do not change whether it opens a certificate. -/
theorem opens_trim : Opens (Text.trim line) ↔ Opens line := infix_trim_iff_of_dashes rfl rfl

/-- Blanks around a line do not change whether it is a marker. -/
theorem isMarker_trim : IsMarker (Text.trim line) ↔ IsMarker line :=
  or_congr opens_trim (infix_trim_iff_of_dashes rfl rfl)

/-- Blanks around a line do not change whether it closes a certificate. -/
theorem closes_trim : Closes (Text.trim line) ↔ Closes line := by
  rw [closes_iff, closes_iff, isMarker_trim, opens_trim]

/-- From what stands open on, only the first line is a marker. -/
theorem StandsOpen.drop_eq (h : StandsOpen done first) : ∃ line between,
    done.drop first = line :: between ∧ Opens line ∧ ∀ line ∈ between, ¬ IsMarker line := by
  obtain ⟨line, hline, hopens⟩ := h.opens
  obtain ⟨hlt, heq⟩ := List.getElem?_eq_some_iff.mp hline
  refine ⟨line, done.drop (first + 1), ?_, hopens, fun other hother => ?_⟩
  · rw [List.drop_eq_getElem_cons hlt, heq]
  · obtain ⟨i, hi⟩ := List.mem_iff_getElem?.mp hother
    rw [List.getElem?_drop] at hi
    exact h.unmarked _ other (by omega) hi

/-- A block is a **complete** certificate. -/
theorem IsBlock.isComplete (h : IsBlock ls first last) (hls : ∀ line ∈ ls, '\n' ∉ line) :
    IsComplete (blockLines ls (first, last)) := by
  obtain ⟨⟨final, hfinal, hcloses⟩, hopen⟩ := isBlock_iff.mp h
  obtain ⟨hlt, heq⟩ := List.getElem?_eq_some_iff.mp hfinal
  obtain ⟨line, between, hdrop, hopens, hunmarked⟩ := hopen.drop_eq
  have hlines : (ls.take (last + 1)).drop first = line :: between ++ [final] := by
    rw [List.take_succ_eq_append_getElem hlt, heq,
      List.drop_append_of_le_length hopen.lt_length.le, hdrop]
  refine ⟨?_, Text.trim line, between.map Text.trim, Text.trim final, ?_, opens_trim.mpr hopens,
    closes_trim.mpr hcloses, ?_⟩
  · refine List.forall_mem_map.mpr fun line hline => ⟨fun hbreak => ?_, Text.trim_trim line⟩
    have hmem : line ∈ ls := List.mem_of_mem_take (List.mem_of_mem_drop hline)
    exact hls line hmem (Text.mem_of_mem_trim hbreak)
  · rw [blockLines, hlines]
    simp
  · exact List.forall_mem_map.mpr fun line hline => mt isMarker_trim.mp (hunmarked line hline)

/-- The certificates of a text are **complete**. -/
theorem isComplete_of_mem_split {text : String} {piece : List (List Char)}
    (h : piece ∈ split text) : IsComplete piece := by
  obtain ⟨blocks, hblocks, hsplit⟩ := split_eq_blocks text
  rw [hsplit] at h
  obtain ⟨b, hb, rfl⟩ := List.mem_map.mp h
  exact ((hblocks.mem_iff b).mp hb).isComplete fun _ => notMem_of_mem_lines

/-- Kept lines that are no markers are added to the certificate that is open. -/
theorem splitFrom_between {between : List (List Char)} (hkept : ∀ line ∈ between, Kept line)
    (hunmarked : ∀ line ∈ between, ¬ IsMarker line) (before rest : List (List Char)) :
    splitFrom (some before) (between ++ rest) =
      splitFrom (some (between.reverse ++ before)) rest := by
  induction between generalizing before with
  | nil => rfl
  | cons line between ih =>
      obtain ⟨hline, hkept⟩ := List.forall_mem_cons.mp hkept
      obtain ⟨hmarker, hunmarked⟩ := List.forall_mem_cons.mp hunmarked
      have hopens : ¬ Opens line := fun h => hmarker h.isMarker
      have hcloses : ¬ Closes line := fun h => hmarker (closes_iff.mp h).1
      have hbehind : openBehind (some before) line = some (line :: before) := by
        rw [openBehind, if_neg hopens, if_neg hcloses, hline.2]
        rfl
      rw [List.cons_append, splitFrom_cons, endingAt, if_neg hcloses, hbehind, List.nil_append,
        ih hkept hunmarked, List.reverse_cons, List.append_assoc, List.singleton_append]

/-- A complete certificate is found **as it is**, and nothing stands open behind it. -/
theorem IsComplete.splitFrom_append {piece : List (List Char)} (h : IsComplete piece)
    (rest : List (List Char)) : splitFrom none (piece ++ rest) = piece :: splitFrom none rest := by
  obtain ⟨first, between, last, rfl, hopens, hcloses, hunmarked⟩ := h.shape
  have hkept := h.kept
  rw [List.cons_append, List.forall_mem_cons, List.forall_mem_append] at hkept
  obtain ⟨hfirst, hbetween, hlast⟩ := hkept
  have hbegin : splitFrom none (first :: between ++ [last] ++ rest) =
      splitFrom (some [first]) (between ++ last :: rest) := by
    have hnot : ¬ Closes first := fun h => h.2 hopens
    rw [List.append_assoc, List.cons_append, splitFrom_cons, endingAt, if_neg hnot, openBehind,
      if_pos hopens, hfirst.2]
    rfl
  have hend : splitFrom (some (between.reverse ++ [first])) (last :: rest) =
      (first :: between ++ [last]) :: splitFrom none rest := by
    rw [splitFrom_cons, endingAt, if_pos hcloses, openBehind, if_neg hcloses.2, if_pos hcloses,
      (List.forall_mem_singleton.mp hlast).2]
    simp
  rw [hbegin, splitFrom_between hbetween hunmarked, hend]

/-- Complete certificates one behind the other are found **again**. -/
theorem splitFrom_flatten {pieces : List (List (List Char))}
    (h : ∀ piece ∈ pieces, IsComplete piece) : splitFrom none pieces.flatten = pieces := by
  induction pieces with
  | nil => rfl
  | cons piece pieces ih =>
      obtain ⟨hpiece, hpieces⟩ := List.forall_mem_cons.mp h
      rw [List.flatten_cons, hpiece.splitFrom_append, ih hpieces]

/-- The certificates of a text are found **again** in all of their documents put together. -/
theorem split_document (text : String) :
    split (String.join ((split text).map document)) = split text := by
  have hcomplete : ∀ piece ∈ split text, IsComplete piece := fun _ => isComplete_of_mem_split
  rw [split, lines_document fun piece hpiece => (hcomplete piece hpiece).kept,
    splitFrom_flatten hcomplete]

/-! ### Bundles -/

/-- The bytes of a text. -/
def utf8 (text : String) : List UInt8 := text.toUTF8.data.toList

/-- The certificates in the bytes of a text are those of the text, each as a document. -/
theorem certificatesOf_utf8 (text : String) : certificatesOf (utf8 text) =
    if split text = [] then .error .noCertificates else .ok ((split text).map document) := by
  have hread : String.fromUTF8? ⟨(utf8 text).toArray⟩ = some text := by
    rw [utf8, Array.toArray_toList]
    exact dif_pos text.isValidUTF8
  simp only [certificatesOf, hread]
  split
  · next h => rw [if_pos h]
  · next h => rw [if_neg h]

/-- The certificates of a bundle are **the blocks** of its lines, in order, each with its lines
trimmed and ended; there are none, which is a fault, just if it has no block. All of them put
together are a bundle of the same certificates. -/
theorem certificatesOf_eq_blocks (text : String) :
    (∃ blocks, AreBlocks (lines text.toList) blocks ∧ certificatesOf (utf8 text) =
        if blocks = [] then .error .noCertificates
        else .ok (blocks.map fun b => document (blockLines (lines text.toList) b))) ∧
      ((∃ fault, certificatesOf (utf8 text) = .error fault) ↔
        ∀ first last, ¬ IsBlock (lines text.toList) first last) ∧
      ∀ documents, certificatesOf (utf8 text) = .ok documents →
        certificatesOf (utf8 (String.join documents)) = .ok documents := by
  obtain ⟨blocks, hblocks, hsplit⟩ := split_eq_blocks text
  have hnil : split text = [] ↔ blocks = [] := by rw [hsplit, List.map_eq_nil_iff]
  refine ⟨⟨blocks, hblocks, ?_⟩, ?_, fun documents hdocuments => ?_⟩
  · simp only [certificatesOf_utf8, hnil]
    rw [hsplit, List.map_map]
    rfl
  · have hnone : split text = [] ↔ ∀ first last, ¬ IsBlock (lines text.toList) first last := by
      rw [hnil, List.eq_nil_iff_forall_not_mem, Prod.forall]
      exact forall₂_congr fun first last => not_congr (hblocks.mem_iff (first, last))
    rw [← hnone, certificatesOf_utf8]
    split
    · next h => exact iff_of_true ⟨_, rfl⟩ h
    · next h => exact iff_of_false nofun h
  · rw [certificatesOf_utf8] at hdocuments
    split at hdocuments
    · cases hdocuments
    · next hne =>
      obtain rfl := Except.ok.inj hdocuments
      rw [certificatesOf_utf8, split_document, if_neg hne]

/-- What stands around a certificate is left out, also what was opened but not closed. -/
theorem certificatesOf_eq_blocks_reopened :
    certificatesOf (utf8 ("# roots\r\n-----BEGIN CERTIFICATE-----\nQQ==\n" ++
      "  -----BEGIN CERTIFICATE-----\r\n Qg== \n-----END CERTIFICATE-----")) =
        .ok ["-----BEGIN CERTIFICATE-----\nQg==\n-----END CERTIFICATE-----\n"] ∧
      certificatesOf (utf8 (String.join
        ["-----BEGIN CERTIFICATE-----\nQg==\n-----END CERTIFICATE-----\n"])) =
          .ok ["-----BEGIN CERTIFICATE-----\nQg==\n-----END CERTIFICATE-----\n"] := by
  have hfound : certificatesOf (utf8 ("# roots\r\n-----BEGIN CERTIFICATE-----\nQQ==\n" ++
      "  -----BEGIN CERTIFICATE-----\r\n Qg== \n-----END CERTIFICATE-----")) =
        .ok ["-----BEGIN CERTIFICATE-----\nQg==\n-----END CERTIFICATE-----\n"] := by
    rw [certificatesOf_utf8]
    decide +kernel
  exact ⟨hfound, (certificatesOf_eq_blocks _).2.2 _ hfound⟩

end Listing.Settings.Certificate
