import Listing.Proofs.Pattern.Like

/-!
# What Expressions Fit

An expression **fits** the part of a text between two places. The meaning of sets, words and the
point is left to a `Reader`, so that what is proved here holds of every store that agrees on the
rest: that characters stand for themselves, that parts follow one another, that a repetition is
its part several times, and that the anchors hold at the ends of the text.

The relational store looks for a part of the text that fits, and the search index takes the text
as a whole.

## Main results

* `Expression.fits_ofItems` — items one behind another fit if each fits where the last one ended.
* `Expression.fits_anchored_first`, `Expression.fits_anchored_last` — an anchor in front of or
  behind some items ties them to an end of the text.
-/

namespace Listing.Pattern

/-- The meaning of those parts of expressions that stores may understand differently. -/
structure Meaning where
  /-- The characters that the point fits. -/
  point : Char → Prop
  /-- The characters of a set. -/
  member : CharSet → Char → Prop
  /-- The places of a text with a word beside them. -/
  word : WordPosition → List Char → Nat → Prop

/-- One relation after another **a number of times**. -/
def Times (R : Nat → Nat → Prop) : Nat → Nat → Nat → Prop
  | 0, i, j => i = j
  | n + 1, i, j => ∃ k, R i k ∧ Times R n k j

namespace Expression

variable (M : Meaning) (s : List Char)

/-- Whether a position is at a place of a text. -/
def Holds (i : Nat) : Position → Prop
  | .lineStart | .start => i = 0
  | .lineFinish | .finish => i = s.length
  | .word p => M.word p s i

mutual

/-- Whether an expression **fits** the part of a text between two places. Modes are not followed,
for no accepted pattern changes them. -/
def Fits : Expression → Nat → Nat → Prop
  | .empty, i, j => i = j
  | .char c, i, j => s[i]? = some c.char ∧ j = i + 1
  | .anyChar, i, j => (∃ c, s[i]? = some c ∧ M.point c) ∧ j = i + 1
  | .position p, i, j => Holds M s i p ∧ i = j
  | .set cs, i, j => (∃ c, s[i]? = some c ∧ M.member cs c) ∧ j = i + 1
  | .repetition least most _ e, i, j =>
    ∃ n, least ≤ n ∧ (∀ m ∈ most, n ≤ m) ∧ Times (Fits e) n i j
  | .group _ e, i, j => Fits e i j
  | .flags _, i, j => i = j
  | .concat es, i, j => FitsAll es i j
  | .alternation es, i, j => FitsSome es i j

/-- Whether expressions fit one behind another. -/
def FitsAll : List Expression → Nat → Nat → Prop
  | [], i, j => i = j
  | e :: es, i, j => ∃ k, Fits e i k ∧ FitsAll es k j

/-- Whether one of several expressions fits. -/
def FitsSome : List Expression → Nat → Nat → Prop
  | [], _, _ => False
  | e :: es, i, j => Fits e i j ∨ FitsSome es i j

end

variable {M s} {i j : Nat}

/-- One of several expressions fits. -/
theorem fitsSome_iff {es : List Expression} : FitsSome M s es i j ↔ ∃ e ∈ es, Fits M s e i j := by
  induction es with
  | nil => simp [FitsSome]
  | cons e es ih => simp [FitsSome, ih]

/-- Expressions fit one behind another if the first ones do and then the others. -/
theorem fitsAll_append {es fs : List Expression} :
    FitsAll M s (es ++ fs) i j ↔ ∃ k, FitsAll M s es i k ∧ FitsAll M s fs k j := by
  induction es generalizing i with
  | nil => simp [FitsAll]
  | cons e es ih =>
    simp only [List.cons_append, FitsAll, ih]
    grind

/-- **Items fit one behind another**, whether or not there is need of a list. -/
theorem fits_ofItems {es : List Expression} :
    Fits M s (ofItems es) i j ↔ FitsAll M s es i j := by
  match es with
  | [] => simp [ofItems, Fits, FitsAll]
  | [e] => simp [ofItems, FitsAll]
  | e :: f :: es => simp [ofItems, Fits]

/-- An anchor in front ties items to the **start** of the text. -/
theorem fits_anchored_first {es : List Expression} :
    Fits M s (ofItems (.position .lineStart :: es)) i j ↔ i = 0 ∧ Fits M s (ofItems es) i j := by
  simp only [fits_ofItems, FitsAll, Fits, Holds]
  grind

/-- An anchor behind ties items to the **end** of the text. -/
theorem fits_anchored_last {es : List Expression} :
    Fits M s (ofItems (es ++ [.position .lineFinish])) i j ↔
      j = s.length ∧ Fits M s (ofItems es) i j := by
  simp only [fits_ofItems, fitsAll_append, FitsAll, Fits, Holds]
  grind

/-! ### The two ways to use an expression -/

end Expression

variable (M : Meaning)

/-- Whether an expression **finds** a part of a text that it fits. -/
def Finds (expression s : List Char) : Prop :=
  ∃ e, Expression.read expression = .ok e ∧ ∃ i j, i ≤ s.length ∧ e.Fits M s i j

/-- Whether an expression **matches** a text as a whole. -/
def Matches (expression s : List Char) : Prop :=
  ∃ e, Expression.read expression = .ok e ∧ e.Fits M s 0 s.length

end Listing.Pattern
