import Listing.Pattern.Trie
import Listing.Pattern.Utf8
import Std.Data.TreeMap

/-!
# Laying out automata

The memory that an automaton takes is counted while its states are laid out one after the other. A
`Layout` is what is there so far. A state takes 32 bytes, each transition of a state that may have
several takes 8 more, and each branch of a choice 4.

Sets of characters share states: reading forwards, states with the same transitions are one;
reading backwards, sequences of bytes with the same beginning use the same states for it. Which
states are the same is looked up in a `Memo`, so a few of them may be laid out again.
-/

namespace Listing.Pattern

open Unicode (Ranges)

/-! ### Memories with few places -/

/-- A **memo** remembers which number belongs to which key, but it has only so many places, and the
place of a key is given by its hash value. A key that comes to a place where another one is takes
it, and the other one is forgotten. -/
structure Memo where
  /-- The number of places. -/
  places : Nat
  /-- The keys that are remembered with their numbers, by their places. -/
  entries : Std.TreeMap Nat (List Nat × Nat)

namespace Memo

/-- A memory in which nothing is remembered. -/
def empty (places : Nat) : Memo := ⟨places, {}⟩

/-- The hash value of a key: each number is mixed in by an exclusive or and a multiplication
modulo two to the power of 64. -/
def hash (key : List Nat) : UInt64 :=
  key.foldl (fun h n => (h ^^^ n.toUInt64) * 1099511628211) 14695981039346656037

/-- The place of a key. -/
def place (m : Memo) (key : List Nat) : Nat := (hash key).toNat % m.places

/-- The number of a key at a place, if it is remembered. -/
def findAt? (m : Memo) (place : Nat) (key : List Nat) : Option Nat :=
  match m.entries[place]? with
  | some (k, n) => if k = key then some n else none
  | none => none

/-- The memory after a key has been put at a place. -/
def putAt (m : Memo) (place : Nat) (key : List Nat) (n : Nat) : Memo :=
  { m with entries := m.entries.insert place (key, n) }

end Memo

/-! ### What has been laid out -/

/-- The part of an automaton that has been laid out. -/
structure Layout where
  /-- The number of states, which is also the number of the next one. -/
  states : Nat
  /-- The memory of transitions and branches that are kept apart from the states. -/
  extra : Nat
deriving DecidableEq, Repr

namespace Layout

/-- The memory of a state. -/
def stateSize : Nat := 32

/-- The memory of a transition of a state that may have several. -/
def transitionSize : Nat := 8

/-- The memory of a branch of a choice. -/
def branchSize : Nat := 4

/-- Nothing laid out yet. -/
def start : Layout := ⟨0, 0⟩

/-- The memory of what has been laid out. -/
def memory (l : Layout) : Nat := l.states * stateSize + l.extra

/-- More states. -/
def addStates (n : Nat) (l : Layout) : Layout := { l with states := l.states + n }

/-- More transitions. -/
def addTransitions (n : Nat) (l : Layout) : Layout :=
  { l with extra := l.extra + n * transitionSize }

/-- More branches of a choice. -/
def addBranches (n : Nat) (l : Layout) : Layout := { l with extra := l.extra + n * branchSize }

/-- A state that chooses between two ways. -/
def addFork (l : Layout) : Layout := (l.addStates 1).addBranches 2

end Layout

/-! ### Sets of characters -/

/-- A layout together with the states that can be used again. -/
structure SharedLayout where
  /-- What has been laid out. -/
  layout : Layout
  /-- The states by what they do. -/
  memo : Memo

namespace SharedLayout

/-- The number of the state that does what the key says; it is laid out if it is not known. -/
def share (key : List Nat) (transitions : Nat) (s : SharedLayout) : Nat × SharedLayout :=
  let place := s.memo.place key
  match s.memo.findAt? place key with
  | some n => (n, s)
  | none =>
    let n := s.layout.states
    (n, ⟨(s.layout.addStates 1).addTransitions transitions, s.memo.putAt place key n⟩)

/-- The state that reads one of some sequences and goes on to `target`. Sequences that are shorter
than `depth` are read to their ends. -/
def node (target : Nat) : Nat → List Ranges → SharedLayout → Nat × SharedLayout
  | 0, _, s => (target, s)
  | depth + 1, sequences, s =>
    if sequences.all (·.isEmpty) then (target, s)
    else
      let groups := Utf8.groups sequences
      let (key, s) := groups.foldl (fun (key, s) group =>
        let (next, s) := node target depth group.2 s
        (key ++ [group.1.1, group.1.2, next], s)) ([], s)
      s.share key groups.length

/-- The states that read one sequence from `target` on, first byte next to it. -/
def chain (s : SharedLayout) (target : Nat) (sequence : Ranges) : SharedLayout :=
  (sequence.foldl (fun (next, s) range => share [next, range.1, range.2] 0 s) (target, s)).2

end SharedLayout

namespace Layout

/-- The states for a set of characters when reading forwards: the end, and the states in front of
it. -/
def addSetForwards (sequences : List Ranges) (l : Layout) : Layout :=
  (SharedLayout.node l.states 5 sequences ⟨l.addStates 1, .empty 10000⟩).2.layout

/-- The states for a set of characters when reading backwards: a choice between its sequences,
their common end, and the states in between. -/
def addSetBackwards (sequences : List Ranges) (l : Layout) : Layout :=
  let begun : SharedLayout := ⟨l.addStates 2, .empty 1000⟩
  let shared := sequences.foldl (fun s sequence => s.chain (l.states + 1) sequence) begun
  shared.layout.addBranches sequences.length

/-- The states for a set of characters. ASCII characters need one state and its end. -/
def addSet (backwards : Bool) (ranges : Ranges) (l : Layout) : Layout :=
  if ranges.all (·.2 < 128) then (l.addStates 2).addTransitions ranges.length
  else if backwards then l.addSetBackwards (Utf8.sequences ranges)
  else l.addSetForwards (Utf8.sequences ranges)

end Layout

/-! ### Tries -/

namespace Trie

mutual

/-- The states for a node: one for each layer with bytes and a choice between the layers, where
the text that leads to the node ends between two layers. -/
def addTo (l : Layout) : Trie → Layout
  | node layers =>
    ((addLayers l layers).addStates 1).addBranches
      (layers.countP (!·.isEmpty) + (layers.length - 1))

/-- The states for the layers of a node. -/
def addLayers (l : Layout) : List (List (Nat × Trie)) → Layout
  | [] => l
  | layer :: rest =>
    let l := addLayers (addLayer l layer) rest
    if layer.isEmpty then l
    else if layer.length = 1 then l.addStates 1
    else (l.addStates 1).addTransitions layer.length

/-- The states for what is behind the bytes of a layer. -/
def addLayer (l : Layout) : List (Nat × Trie) → Layout
  | [] => l
  | branch :: rest => addLayer (addBranch l branch) rest

/-- The states for what is behind a byte; a leaf needs none. -/
def addBranch (l : Layout) : Nat × Trie → Layout
  | (_, t) => if t.isLeaf then l else addTo l t

end

end Trie

/-- The states for a choice between texts, read forwards or backwards: a trie and its end. -/
def Layout.addTexts (backwards : Bool) (texts : List (List Char)) (l : Layout) : Layout :=
  let bytes := texts.map fun cs => cs.flatMap fun c => Utf8.bytes c.toNat
  (Trie.ofTexts (if backwards then bytes.map List.reverse else bytes)).addTo (l.addStates 1)

end Listing.Pattern
