import Listing.Pattern.Layout
import Listing.Pattern.Term

/-!
# The size of automata

A term is matched by an automaton with a state for every byte, branch and mark. A repetition with
counts is written out, so a short expression may have a very large automaton. `Term.fits` says
whether the automata that read a term forwards and backwards keep within a limit; they are laid out
until it is reached.
-/

namespace Listing.Pattern

/-- A step of laying out an automaton, which fails when the limit is passed. -/
abbrev LayoutStep := Layout → Option Layout

/-- The layout, if its memory is within the limit. -/
def Layout.within (limit : Nat) (l : Layout) : Option Layout :=
  if limit < l.memory then none else some l

/-- A step several times. -/
def LayoutStep.times (step : LayoutStep) : Nat → LayoutStep
  | 0, l => some l
  | n + 1, l =>
    match step l with
    | some l => times step n l
    | none => none

namespace Term

/-- The characters of a text. -/
def text? : Term → Option (List Char)
  | text cs => some cs
  | _ => none

/-- The texts of a choice between nothing but texts. -/
def texts? (ts : List Term) : Option (List (List Char)) := ts.mapM text?

mutual

/-- Lays out a term. What a choice between two ways leads to is laid out at once, and where its ways
meet there is a state. -/
def layOut (limit : Nat) (backwards : Bool) : Term → LayoutStep
  | empty, l => (l.addStates 1).within limit
  | text cs, l => (l.addStates (cs.foldl (fun n c => n + Utf8.length c.toNat) 0)).within limit
  | oneOf areBytes ranges, l =>
    (if areBytes then (l.addStates 2).addTransitions ranges.length
      else l.addSet backwards ranges).within limit
  | edge _, l => (l.addStates 1).within limit
  | repetition least most _ t, l =>
    match least, most with
    | 0, some 1 => do
      let l ← t.layOut limit backwards l.addFork
      (l.addStates 1).within limit
    | 0, none =>
      if t.shortest?.any (0 < ·) then t.layOut limit backwards l.addFork
      else do
        let l ← t.layOut limit backwards l
        (l.addFork.addFork.addStates 1).within limit
    | n + 1, none => do
      let l ← LayoutStep.times (fun l => t.layOut limit backwards l) (n + 1) l
      l.addFork.within limit
    | least, some most => do
      let l ← LayoutStep.times (fun l => t.layOut limit backwards l) least
        (if least = 0 then l.addStates 1 else l)
      if least = most then return l
      LayoutStep.times (fun l => t.layOut limit backwards l.addFork) (most - least)
        (l.addStates 1)
  | capture _ t, l =>
    if backwards then t.layOut limit backwards l
    else do
      let l ← t.layOut limit backwards (l.addStates 1)
      (l.addStates 1).within limit
  | concat ts, l =>
    if backwards then layOutBackwards limit ts l else layOutForwards limit ts l
  | alternation ts, l =>
    match texts? ts with
    | some texts => (l.addTexts backwards texts).within limit
    | none => layOutBranches limit backwards 0 ts l

/-- Lays out terms from the first one on, for reading forwards. -/
def layOutForwards (limit : Nat) : List Term → LayoutStep
  | [], l => some l
  | t :: rest, l => do layOutForwards limit rest (← t.layOut limit false l)

/-- Lays out terms from the last one on, for reading backwards. -/
def layOutBackwards (limit : Nat) : List Term → LayoutStep
  | [], l => some l
  | t :: rest, l => do t.layOut limit true (← layOutBackwards limit rest l)

/-- Lays out the branches of a choice, of which `count` have been laid out. The choice itself and
its end follow the second branch. -/
def layOutBranches (limit : Nat) (backwards : Bool) (count : Nat) : List Term → LayoutStep
  | [], l => (l.addBranches count).within limit
  | t :: rest, l => do
    let l ← t.layOut limit backwards l
    layOutBranches limit backwards (count + 1) rest (if count = 1 then l.addStates 2 else l)

end

/-- The layout in front of a term: a state if the term is anchored, otherwise a loop over any
byte. -/
def lead (anchored : Bool) : Layout :=
  if anchored then Layout.start.addStates 1
  else ((Layout.start.addFork).addStates 2).addTransitions 1

/-- Whether the automata of a term keep within a limit. Both have a state for a match at their end;
the one that reads forwards remembers the start and the end of a match. -/
def fits (limit : Nat) (t : Term) : Bool :=
  let forwards := do
    let l ← t.layOut limit false ((lead t.startsAtStart).addStates 1)
    (l.addStates 2).within limit
  let backwards := do
    let l ← t.layOut limit true (lead t.endsAtEnd)
    (l.addStates 1).within limit
  forwards.isSome && backwards.isSome

end Term

end Listing.Pattern
