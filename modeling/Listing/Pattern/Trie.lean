/-!
# Texts that share their beginnings

A **trie** holds texts of bytes so that texts with the same beginning share it. It keeps their
order as far as that matters: what was added before a text ended comes before that end, and what is
added later stands behind it in a layer of its own.
-/

namespace Listing.Pattern

/-- A node of a trie: its layers, the last one first. Between two layers the text that leads here
ends. -/
inductive Trie where
  /-- A node with its layers, each a list of bytes in ascending order and the nodes behind them. -/
  | node (layers : List (List (Nat × Trie)))
deriving Repr, Inhabited

namespace Trie

/-- A node to which no text leads. -/
def empty : Trie := node [[]]

/-- The layers of a node. -/
def layers : Trie → List (List (Nat × Trie))
  | node layers => layers

/-- Whether nothing follows a node. -/
def isLeaf (t : Trie) : Bool := t.layers.all (·.isEmpty)

/-- A node at which a text ends. A second end in the same place changes nothing. -/
def finish (t : Trie) : Trie :=
  if t.isLeaf ∧ 1 < t.layers.length then t else node ([] :: t.layers)

/-- A layer with the node behind a byte changed, or added. -/
def alter (byte : Nat) (change : Trie → Trie) : List (Nat × Trie) → List (Nat × Trie)
  | [] => [(byte, change empty)]
  | (b, t) :: rest =>
    if byte < b then (byte, change empty) :: (b, t) :: rest
    else if byte = b then (b, change t) :: rest
    else (b, t) :: alter byte change rest

/-- A trie with one more text. -/
def insert : List Nat → Trie → Trie
  | [], t => t.finish
  | byte :: rest, t =>
    match t.layers with
    | [] => node [[(byte, insert rest empty)]]
    | last :: layers => node (alter byte (insert rest) last :: layers)

/-- The trie of some texts. -/
def ofTexts (texts : List (List Nat)) : Trie := texts.foldl (fun t text => t.insert text) empty

end Trie

end Listing.Pattern
