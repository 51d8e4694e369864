import Listing.Proofs.Text.Splitting
import Listing.Store.Report
import Mathlib.Data.List.TakeWhile

/-!
# Positions in Statements

The store names a position in a statement by the number of the character there, and a report takes
it for the number of a byte: it shows the line and the place of the first character that does not
**start before** that byte. The two agree in front of the first character of more than one byte and
right behind it. From then on every such character moves what is shown to the left, perhaps to an
earlier line.

## Main results

* `pointsBehind_ofServer` — what a report shows.
* `Report.PointsBehind.eq_of_prefix` — no other place is shown in the same way.
* `startingBefore_eq_take_iff` — when bytes and characters come to the same place.
* `pointsBehind_take_iff` — the character at the position is shown exactly if all characters in
  front of it, but the last, take one byte each.
-/

namespace Listing.Store

/-- A report **points behind** some characters of a statement: its line is one more than the line
breaks in them, and its place is one more than the characters behind the last of these. -/
structure Report.PointsBehind (r : Report) (cs : List Char) : Prop where
  /-- The lines in front. -/
  line_eq : r.line = some (1 + cs.count '\n')
  /-- The characters in front on the same line. -/
  place_eq : r.place = some (1 + (cs.reverse.takeWhile (· ≠ '\n')).length)

/-- The characters of a text that **start before** a byte. -/
def startingBefore (byte : Nat) : List Char → List Char
  | [] => []
  | c :: cs => if byte = 0 then [] else c :: startingBefore (byte - c.utf8Size) cs

/-- Nothing starts before the first byte. -/
@[simp] theorem startingBefore_zero (cs : List Char) : startingBefore 0 cs = [] := by
  cases cs <;> rfl

/-- The first character starts before every other byte. -/
theorem startingBefore_cons {byte : Nat} (h : 0 < byte) (c : Char) (cs : List Char) :
    startingBefore byte (c :: cs) = c :: startingBefore (byte - c.utf8Size) cs :=
  if_neg (Nat.ne_of_gt h)

/-! ### What a report shows -/

/-- Lines and places are counted on from the characters that have been read. -/
theorem lineAndPlaceFrom_eq (target byte : Nat) (done cs : List Char) :
    lineAndPlaceFrom target byte (1 + done.count '\n')
        (1 + (done.reverse.takeWhile (· ≠ '\n')).length) cs =
      (1 + (done ++ startingBefore (target - byte) cs).count '\n',
        1 + ((done ++ startingBefore (target - byte) cs).reverse.takeWhile (· ≠ '\n')).length) := by
  induction cs generalizing byte done with
  | nil => simp [lineAndPlaceFrom, startingBefore]
  | cons c cs ih =>
    rw [lineAndPlaceFrom]
    by_cases hend : target ≤ byte
    · rw [if_pos hend, Nat.sub_eq_zero_of_le hend, startingBefore_zero, List.append_nil]
    · rw [if_neg hend, startingBefore_cons (by omega), Nat.sub_sub, List.append_cons]
      by_cases hc : c = '\n'
      · subst hc
        simpa [Nat.add_assoc] using ih (byte + '\n'.utf8Size) (done ++ ['\n'])
      · rw [if_neg hc]
        simpa [hc, Nat.add_assoc, Nat.add_comm] using ih (byte + c.utf8Size) (done ++ [c])

/-- A report **points behind** the characters that start before the byte at its position. -/
theorem pointsBehind_ofServer {e : ServerError} {position : Nat} (he : e.position = some position)
    (statement : String) :
    (Report.ofServer e statement).PointsBehind
      (startingBefore (position - 1) statement.toList) := by
  have hfound : lineAndPlace statement position =
      lineAndPlaceFrom (position - 1) 0 1 1 statement.toList := by
    by_cases hzero : position = 0
    · subst hzero
      cases h : statement.toList <;> simp [lineAndPlace, lineAndPlaceFrom]
    · rw [lineAndPlace, if_neg hzero]
  have hcount := lineAndPlaceFrom_eq (position - 1) 0 [] statement.toList
  simp only [List.count_nil, List.reverse_nil, List.takeWhile_nil, List.length_nil, Nat.add_zero,
    List.nil_append, Nat.sub_zero] at hcount
  rw [hcount] at hfound
  constructor <;> simp [Report.ofServer, he, hfound]

/-- A report points behind one beginning of a statement **only**. -/
theorem Report.PointsBehind.eq_of_prefix {r : Report} {cs ds : List Char}
    (hc : r.PointsBehind cs) (hd : r.PointsBehind ds) (h : cs <+: ds) : cs = ds := by
  obtain ⟨more, rfl⟩ := h
  have hline := Option.some.inj (hc.line_eq.symm.trans hd.line_eq)
  have hplace := Option.some.inj (hc.place_eq.symm.trans hd.place_eq)
  rw [List.count_append] at hline
  have hbreak : '\n' ∉ more := List.count_eq_zero.mp (by omega)
  have hmore : ∀ c ∈ more.reverse, decide (c ≠ '\n') = true := by
    intro c hmem
    exact decide_eq_true fun hc => hbreak (hc ▸ List.mem_reverse.mp hmem)
  rw [List.reverse_append, List.takeWhile_append_of_pos hmore, List.length_append,
    List.length_reverse] at hplace
  have hnil : more = [] := List.length_eq_zero_iff.mp (by omega)
  rw [hnil, List.append_nil]

/-! ### Bytes and characters -/

/-- Every character takes a byte, so no more characters than bytes start before one. -/
theorem startingBefore_prefix_take (byte : Nat) (cs : List Char) :
    startingBefore byte cs <+: cs.take byte := by
  induction cs generalizing byte with
  | nil => simp [startingBefore]
  | cons c cs ih =>
    cases byte with
    | zero => simp
    | succ n =>
      have hc := c.utf8Size_pos
      rw [startingBefore_cons n.succ_pos, List.take_succ_cons, List.prefix_cons_inj]
      exact (ih _).trans (List.take_prefix_take_left (by omega))

/-- As many characters as bytes start before one exactly if all of them but the last take **one
byte**. -/
theorem startingBefore_eq_take_iff {byte : Nat} {cs : List Char} (h : byte ≤ cs.length) :
    startingBefore byte cs = cs.take byte ↔ ∀ c ∈ cs.take (byte - 1), c.utf8Size = 1 := by
  induction cs generalizing byte with
  | nil => simp [startingBefore]
  | cons c cs ih =>
    have hpos := c.utf8Size_pos
    match byte, h with
    | 0, _ => simp
    | 1, _ =>
      -- the last character in front of the byte may take any number of bytes
      rw [startingBefore_cons Nat.one_pos, show 1 - c.utf8Size = 0 by omega]
      simp
    | n + 2, h =>
      have hn : n + 1 ≤ cs.length := Nat.le_of_succ_le_succ h
      rw [startingBefore_cons (by omega), List.take_succ_cons, List.cons_inj_right,
        show n + 2 - 1 = n + 1 from rfl, List.take_succ_cons, List.forall_mem_cons]
      by_cases hc : c.utf8Size = 1
      · rw [hc, and_iff_right rfl]
        exact ih hn
      · refine iff_of_false (fun heq => ?_) fun hall => hc hall.1
        have hlength := (startingBefore_prefix_take (n + 2 - c.utf8Size) cs).length_le
        rw [heq, List.length_take, List.length_take] at hlength
        omega

/-! ### Reports of positions -/

/-- A report of the store points behind the characters that start before the byte at its position,
and so at the **character** at its position exactly if all the characters in front of that one, but
the last, take one byte each. -/
theorem pointsBehind_take_iff {e : ServerError} {statement : String} {position : Nat}
    (he : e.position = some position) (hfirst : 1 ≤ position)
    (hlast : position ≤ statement.length + 1) :
    (Report.ofServer e statement).PointsBehind (startingBefore (position - 1) statement.toList) ∧
      ((Report.ofServer e statement).PointsBehind (statement.toList.take (position - 1)) ↔
        ∀ c ∈ statement.toList.take (position - 2), c.utf8Size = 1) := by
  have hpoints := pointsBehind_ofServer he statement
  have hlength : position - 1 ≤ statement.toList.length := by
    rw [String.length_toList]
    omega
  refine ⟨hpoints, ?_⟩
  rw [show position - 2 = position - 1 - 1 by omega, ← startingBefore_eq_take_iff hlength]
  constructor
  · exact fun h => hpoints.eq_of_prefix h (startingBefore_prefix_take _ _)
  · exact fun h => h ▸ hpoints

/-- A character of two bytes right in front of the position does no harm. -/
theorem pointsBehind_take_accent :
    let e : ServerError :=
      ⟨"42601", "syntax error at or near \")\"", none, none, none, none, some 11⟩
    let statement := "SELECT 1\né)"
    11 ≤ statement.length + 1 ∧ (∀ c ∈ statement.toList.take 9, c.utf8Size = 1) ∧
      (Report.ofServer e statement).PointsBehind (statement.toList.take 10) := by
  intro e statement
  have hlast : 11 ≤ statement.length + 1 := by decide
  have hbytes : ∀ c ∈ statement.toList.take 9, c.utf8Size = 1 := by decide
  exact ⟨hlast, hbytes, (pointsBehind_take_iff rfl (by decide) hlast).2.mpr hbytes⟩

/-- Three of them further in front move what is shown to the **line before**. -/
theorem not_pointsBehind_take_accents :
    let e : ServerError :=
      ⟨"42703", "column \"x\" does not exist", none, none, none, none, some 15⟩
    let statement := "SELECT 'ééé',\nx"
    15 ≤ statement.length + 1 ∧ (Report.ofServer e statement).line = some 1 ∧
      (Report.ofServer e statement).place = some 12 ∧
      ¬ (Report.ofServer e statement).PointsBehind (statement.toList.take 14) := by
  intro e statement
  have hline : (Report.ofServer e statement).line = some 1 := by decide
  refine ⟨by decide, hline, by decide, fun h => ?_⟩
  rw [h.line_eq] at hline
  exact absurd hline (by decide)

end Listing.Store
