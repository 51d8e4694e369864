/-!
# Modes of matching

An expression can change how the rest of it is to be read and matched. `Modes` are the modes in
force at some place, `Flag` names one of them, and `Modes.change` is what a list of flags does.
-/

namespace Listing.Pattern

/-- A mode by its name. -/
inductive Flag where
  /-- Letters fit whatever their case. -/
  | ignoreCase
  /-- The circumflex and the dollar sign fit at lines. -/
  | multiLine
  /-- The point fits every character. -/
  | dotAll
  /-- Repetitions are reluctant unless a question mark follows. -/
  | swapGreed
  /-- Characters are those of Unicode and not bytes. -/
  | unicode
  /-- Lines end with a carriage return, a line feed, or both. -/
  | carriageReturn
  /-- Blanks and comments may stand between the parts of an expression. -/
  | verbose
deriving DecidableEq, Repr

/-- Changes of modes, each with the new setting. -/
abbrev FlagChanges := List (Flag × Bool)

/-- The modes in force. -/
structure Modes where
  /-- Letters fit whatever their case. -/
  ignoreCase : Bool
  /-- The circumflex and the dollar sign fit at lines. -/
  multiLine : Bool
  /-- The point fits every character. -/
  dotAll : Bool
  /-- Repetitions are reluctant unless a question mark follows. -/
  swapGreed : Bool
  /-- Characters are those of Unicode and not bytes. -/
  unicode : Bool
  /-- Lines end with a carriage return, a line feed, or both. -/
  carriageReturn : Bool
deriving DecidableEq, Repr

namespace Modes

/-- The modes at the start of an expression. -/
def initial : Modes := ⟨false, false, false, false, true, false⟩

/-- The modes with one of them changed. How an expression is laid out does not matter once it has
been read. -/
def set (m : Modes) : Flag → Bool → Modes
  | .ignoreCase, on => { m with ignoreCase := on }
  | .multiLine, on => { m with multiLine := on }
  | .dotAll, on => { m with dotAll := on }
  | .swapGreed, on => { m with swapGreed := on }
  | .unicode, on => { m with unicode := on }
  | .carriageReturn, on => { m with carriageReturn := on }
  | .verbose, _ => m

/-- The modes after some changes. -/
def change (m : Modes) (changes : FlagChanges) : Modes :=
  changes.foldl (fun m c => m.set c.1 c.2) m

end Modes

/-- Whether blanks and comments may stand in an expression after some changes. -/
def FlagChanges.verbose (changes : FlagChanges) (before : Bool) : Bool :=
  changes.foldl (fun on c => if c.1 = .verbose then c.2 else on) before

end Listing.Pattern
