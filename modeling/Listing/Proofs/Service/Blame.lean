import Listing.Proofs.Query.WellFormed
import Listing.Service

/-!
# Whose Fault a Failure Is

A list request fails because of what was asked for or because of a store, and which of
the two it is can be told from what was sent: whatever is wrong with a request is found
before a store hears of it. A model that is built is taken by both stores, and in a
registry without faults every relation of it leads to an entity and to a field, so once
the first request is sent only a store can fail.

Both stores are observed through scripts (`Scripts`), which hold what they will answer and
what they were sent.

## Main results

* `Yields.bind` — what holds of the results of programs, put together step by step.
* `exists_resolve` — in a registry, every relation can be followed.
* `Store.yields_run`, `Search.yields_run` — a request that reaches a store fails only
  because of the store.
* `blame_of_list` — who is to blame, for every list request.
-/

namespace Listing

/-! ### Results of programs -/

/-- A program **yields** results with a property, whatever state it is run in. -/
def Yields {σ α : Type} (x : StateM σ α) (P : α → Prop) : Prop := ∀ s, P (x s).1

namespace Yields

variable {σ α β : Type} {P : α → Prop} {Q : β → Prop}

/-- A result without a program. -/
theorem pure {a : α} (h : P a) : Yields (Pure.pure a : StateM σ α) P := fun _ => h

/-- Every program yields something. -/
theorem trivial (x : StateM σ α) : Yields x fun _ => True := fun _ => True.intro

/-- One program after the other. -/
theorem bind {x : StateM σ α} {k : α → StateM σ β} (hx : Yields x P)
    (hk : ∀ a, P a → Yields (k a) Q) : Yields (x >>= k) Q :=
  fun s => hk (x s).1 (hx s) (x s).2

end Yields

/-- A result that is no failure other than one **of a store**. -/
def FailsOnlyInStore {α : Type} (r : Except QueryError α) : Prop :=
  ∀ e, r = .error e → ∃ b, e = .backend b

/-- A success is no failure. -/
theorem failsOnlyInStore_ok {α : Type} (a : α) : FailsOnlyInStore (.ok a) :=
  fun _ h => nomatch h

/-- A failure of a store is one. -/
theorem failsOnlyInStore_backend {α : Type} (b : BackendError) :
    FailsOnlyInStore (.error (.backend b) : Except QueryError α) := by
  rintro e ⟨⟩
  exact ⟨b, rfl⟩

/-- An end of a request that returns no failure other than one **of a store**. -/
def EndsOnlyInStore {α : Type} (ended : Search.Ended (Except QueryError α)) : Prop :=
  ∀ result, ended = .returned result → FailsOnlyInStore result

/-- A result that is no other failure is returned. -/
theorem FailsOnlyInStore.ends {α : Type} {r : Except QueryError α} (h : FailsOnlyInStore r) :
    EndsOnlyInStore (.returned r) := by
  rintro result ⟨⟩
  exact h

/-- A crash returns nothing. -/
theorem endsOnlyInStore_crashed {α : Type} (left : List Search.Request) :
    EndsOnlyInStore (.crashed left : Search.Ended (Except QueryError α)) :=
  fun _ h => nomatch h

/-! ### Relations -/

/-- No relation of an entity of a registry is at fault. -/
theorem Registry.relationFault?_eq_none (registry : Registry) {e : Entity}
    (he : e ∈ registry.entities) {r : Relation} (hr : r ∈ e.relations) :
    relationFault? registry.entities e r = none := by
  have hfaultless := registry.faultless
  unfold registryFault? at hfaultless
  split at hfaultless
  · cases hfaultless
  · exact List.findSome?_eq_none_iff.mp (List.findSome?_eq_none_iff.mp hfaultless e he) r hr

/-- What is found in a registry is one of its entities. -/
theorem Registry.mem_of_get? {registry : Registry} {name : String} {e : Entity}
    (h : registry.get? name = some e) : e ∈ registry.entities :=
  List.mem_of_find?_eq_some h

namespace Store

/-- Every relation of an entity of a registry **can be followed**. -/
theorem exists_resolve (registry : Registry) {e : Entity} (he : e ∈ registry.entities)
    {r : Relation} (hr : r ∈ e.relations) : ∃ join, resolve registry e r = .ok join := by
  have hnone := registry.relationFault?_eq_none he hr
  unfold relationFault? at hnone
  unfold resolve Registry.get?
  cases htarget : findEntity registry.entities r.target with
  | none => rw [htarget] at hnone; cases hnone
  | some target =>
      cases hlink : r.link with
      | belongsTo field => exact ⟨_, rfl⟩
      | hasMany key =>
          cases hkey : target.field? key with
          | none => simp [htarget, hlink, hkey] at hnone
          | some foreign =>
              simp only [hkey]
              exact ⟨_, rfl⟩

/-! ### The relational store -/

variable {σ : Type} {executor : Executor (StateM σ)} {registry : Registry} {e : Entity}

/-- Following a relation fails only because of the store. -/
theorem yields_follow (he : e ∈ registry.entities) {r : Relation} (hr : r ∈ e.relations)
    (records : List Members) : Yields (follow executor registry e r records) FailsOnlyInStore := by
  obtain ⟨join, hjoin⟩ := exists_resolve registry he hr
  simp only [follow, hjoin]
  split
  · exact .pure (failsOnlyInStore_ok _)
  · refine .bind (.trivial _) ?_
    rintro (err | related) -
    · exact .pure (failsOnlyInStore_backend err)
    · exact .pure (failsOnlyInStore_ok _)

/-- Following several relations fails only because of the store. -/
theorem yields_followAll (he : e ∈ registry.entities) :
    ∀ {relations : List Relation}, (∀ r ∈ relations, r ∈ e.relations) → ∀ records : List Members,
      Yields (followAll executor registry e relations records) FailsOnlyInStore
  | [], _, records => .pure (failsOnlyInStore_ok records)
  | r :: rest, hrelations, records => by
      obtain ⟨hr, hrest⟩ := List.forall_mem_cons.mp hrelations
      refine .bind (yields_follow he hr records) ?_
      rintro (err | found) hfound
      · obtain ⟨b, rfl⟩ := hfound err rfl
        exact .pure (failsOnlyInStore_backend b)
      · exact yields_followAll he hrest found

/-- Records that are asked for as they are need no form. -/
theorem decodeAll_some (records : List Members) : decodeAll some records = .ok records := by
  have hall : records.mapM some = some records := (List.mapM_pure).trans (by simp)
  rw [decodeAll, hall]

/-- A request to the relational store fails **only because of the store**. -/
theorem yields_run {model : Model} (hsound : model.Sound) (he : model.entity ∈ registry.entities)
    (hincludes : ∀ r ∈ model.includes, r ∈ model.entity.relations) :
    Yields (run executor registry some model) FailsOnlyInStore := by
  obtain ⟨⟨countText, hcount⟩, ⟨pageText, hpage⟩, -⟩ := hsound.taken
  have hfollowed : ∀ r ∈ followed model, r ∈ model.entity.relations := by
    intro r hr
    unfold followed at hr
    split at hr
    · cases hr
    · exact hincludes r hr
  simp only [run, hcount, hpage]
  refine .bind (.trivial _) ?_
  rintro (err | total) -
  · exact .pure (failsOnlyInStore_backend err)
  refine .bind (.trivial _) ?_
  rintro (err | records) -
  · exact .pure (failsOnlyInStore_backend err)
  refine .bind (yields_followAll he hfollowed records) ?_
  rintro (err | found) hfound
  · obtain ⟨b, rfl⟩ := hfound err rfl
    exact .pure (failsOnlyInStore_backend b)
  · refine .pure ?_
    rw [decodeAll_some]
    exact failsOnlyInStore_ok _

end Store

/-! ### The search index -/

/-- The page of documents that are asked for as they are fails **only because of the store**. -/
theorem Search.failsOnlyInStore_pageOf (model : Model) (total : Int) :
    ∀ found, FailsOnlyInStore (pageOf some model total found)
  | .error e => failsOnlyInStore_backend e
  | .ok hits => by
      rw [pageOf, Store.decodeAll_some]
      exact failsOnlyInStore_ok _

/-- A request to the search index fails **only because of the store**. -/
theorem Search.yields_run {σ : Type} (client : Client (StateM σ)) (before : String) {model : Model}
    (hsound : model.Sound) : Yields (run client before some model) EndsOnlyInStore := by
  obtain ⟨-, -, clause, hquery⟩ := hsound.taken
  refine .bind (.trivial _) ?_
  rintro (err | _ | _) -
  · exact .pure (failsOnlyInStore_backend err).ends
  · exact .pure (failsOnlyInStore_ok _).ends
  simp only [hquery]
  refine .bind (.trivial _) ?_
  rintro (err | total) -
  · exact .pure (failsOnlyInStore_backend err).ends
  refine .bind (.trivial _) ?_
  rintro (found | left) -
  · exact .pure (failsOnlyInStore_pageOf model total found).ends
  · exact .pure (endsOnlyInStore_crashed left)

/-- Whichever store answers a request for a model that is built, the request fails **only
because of the store**. -/
theorem Stores.yields_run {σ : Type} (stores : Stores (StateM σ)) {ds : List Directive}
    {maxLimit : Nat} {e : Entity} (he : e ∈ stores.registry.entities) {model : Model}
    (h : Model.build ds maxLimit e = .ok model) :
    Yields (stores.run some model) EndsOnlyInStore := by
  have hsound : model.Sound := sound_of_build h
  have hwell := Model.WellFormed.of_build h
  have hstore : Yields (Store.run stores.executor stores.registry some model) FailsOnlyInStore := by
    refine Store.yields_run hsound ?_ ?_
    · rw [hwell.entity_eq]
      exact he
    · rw [hwell.entity_eq]
      exact hwell.includes_mem
  unfold Stores.run
  split
  · exact Search.yields_run _ _ hsound
  · exact .bind hstore fun _ hfound => .pure hfound.ends

/-! ### List requests -/

/-- A failure that is found **before** a store is asked. -/
def QueryError.IsOfClient : QueryError → Prop
  | .parse _ | .validation _ | .unknownEntity _ => True
  | _ => False

/-- A model that a query string asks for is built; otherwise the client is to blame. -/
theorem build_of_ofQuery (e : Entity) (maxLimit : Nat) (query : String) :
    (∃ err, Model.ofQuery e maxLimit query = .error err ∧ err.IsOfClient) ∨
      ∃ ds model, Model.ofQuery e maxLimit query = .ok model ∧
        Model.build ds maxLimit e = .ok model := by
  unfold Model.ofQuery
  cases Directive.parse query with
  | error err => exact .inl ⟨_, rfl, True.intro⟩
  | ok ds =>
      simp only
      cases hbuild : Model.build ds maxLimit e with
      | error failures => exact .inl ⟨_, rfl, True.intro⟩
      | ok model => exact .inr ⟨ds, _, rfl, hbuild⟩

/-- A list request that nothing is sent for fails because of the client; every other one fails
only because of a store. -/
theorem Service.list_cases {σ : Type} (s : Service (StateM σ))
    (hregistry : s.stores.registry = s.registry) (entity query : String) :
    (∃ err, err.IsOfClient ∧ s.list some entity query = Pure.pure (.returned (.error err))) ∨
      Yields (s.list some entity query) EndsOnlyInStore := by
  unfold Service.list Service.model
  cases hget : s.registry.get? entity with
  | none => exact .inl ⟨.unknownEntity entity, True.intro, rfl⟩
  | some e =>
      have he : e ∈ s.stores.registry.entities := by
        rw [hregistry]
        exact Registry.mem_of_get? hget
      simp only
      rcases build_of_ofQuery e (e.maxListSize.getD s.maxListSize) query with
        ⟨err, herr, hclient⟩ | ⟨ds, model, hmodel, hbuild⟩
      · exact .inl ⟨err, hclient, by rw [herr]⟩
      · rw [hmodel]
        exact .inr (s.stores.yields_run he hbuild)

/-- Both stores as they are **scripted**: what they are going to answer and what they were
sent so far. -/
structure Scripts where
  /-- The script of the relational store. -/
  store : Store.Script
  /-- The script of the search index. -/
  search : Search.Script

namespace Scripts

/-- What was sent to either store so far. -/
def sent (s : Scripts) : List String × List Search.Request := (s.store.sent, s.search.sent)

/-- The executor that answers from the script of the relational store. -/
def executor : Store.Executor (StateM Scripts) where
  count statement := fun s =>
    let (answer, store) := Store.Script.executor.count statement s.store
    (answer, { s with store })
  records statement := fun s =>
    let (answer, store) := Store.Script.executor.records statement s.store
    (answer, { s with store })

/-- The client that is answered from the script of the search index. -/
def client : Search.Client (StateM Scripts) where
  send request := fun s =>
    let (answer, search) := Search.Script.client.send request s.search
    (answer, { s with search })

/-- The service whose stores are scripted. There is a search index if there is something that
stands in front of the names in it. -/
def service (registry : Registry) (before : Option String) (maxListSize : Nat) :
    Service (StateM Scripts) where
  registry := registry
  stores := ⟨executor, before.map fun before => ⟨client, before⟩, registry⟩
  maxListSize := maxListSize

end Scripts

/-- For every registry, every request and all answers of both stores: a request that fails
because of the client was **not sent** to a store, whatever fails after something was sent
is a **failure of a store**, and no request fails because a query cannot be put to a store
or because a record has not the expected form. -/
theorem blame_of_list (registry : Registry) (before : Option String) (maxListSize : Nat)
    (entity query : String) (scripts : Scripts) {e : QueryError}
    (h : ((Scripts.service registry before maxListSize).list some entity query scripts).1 =
      .returned (.error e)) :
    let after := ((Scripts.service registry before maxListSize).list some entity query scripts).2
    (e.status = .badRequest ∨ e.status = .notFound → after.sent = scripts.sent) ∧
      (after.sent ≠ scripts.sent → e.status = .internal ∧ ∃ b, e = .backend b) ∧
      (∀ failures, e ≠ .compile failures) ∧ e ≠ .decode := by
  intro after
  rcases (Scripts.service registry before maxListSize).list_cases rfl entity query with
    ⟨err, hclient, hlist⟩ | hyields
  · have hsent : after.sent = scripts.sent := by
      simp only [after, hlist]
      rfl
    rw [hlist] at h
    obtain rfl : err = e := Except.error.inj (Search.Ended.returned.inj h)
    refine ⟨fun _ => hsent, fun hne => absurd hsent hne, ?_, ?_⟩
    · rintro failures rfl
      exact hclient
    · rintro rfl
      exact hclient
  · obtain ⟨b, rfl⟩ := hyields scripts _ h e rfl
    refine ⟨?_, fun _ => ⟨rfl, b, rfl⟩, fun _ => nofun, nofun⟩
    rintro (hstatus | hstatus) <;> cases hstatus

/-! ### Examples -/

namespace Sample

/-- The failure that is returned, if one is. -/
def failure? {α : Type} : Search.Ended (Except QueryError α) → Option QueryError
  | .returned (.error e) => some e
  | _ => none

/-- An end with a failure returns that failure. -/
theorem eq_error_of_failure? {α : Type} {ended : Search.Ended (Except QueryError α)}
    {e : QueryError} (h : failure? ended = some e) : ended = .returned (.error e) := by
  rcases ended with (err | a) | left
  · rw [Option.some.inj h]
  · cases h
  · cases h

/-- A registry of invoices only. -/
def invoiceRegistry : Registry := ⟨[invoices], rfl⟩

/-- A relational store that hands out no connection, and no search index. -/
def broken : Scripts := ⟨⟨[.error (.pool "timed out")], [], []⟩, ⟨[], []⟩⟩

/-- A request for a page of invoices. -/
def ran (query : String) : Search.Ended (Except QueryError (Page Members)) × Scripts :=
  (Scripts.service invoiceRegistry none 100).list some "Invoice" query broken

/-- All invoices cannot be had from the store. -/
theorem ran_all : (ran "").1 = .returned (.error (.backend (.pool "timed out"))) :=
  eq_error_of_failure? (by decide +kernel)

/-- Invoices cannot be selected by a field that they do not have. -/
theorem ran_due : (ran "filter[where][Due]=1").1 = .returned
    (.error (.validation [⟨"filter[where][Due]=1", "'Due' is not a field of 'Invoice'"⟩])) :=
  eq_error_of_failure? (by decide +kernel)

end Sample

/-- The store is to blame for the statement that was sent to it and failed; for a field
that is not there nothing is sent. -/
theorem blame_of_list_invoices :
    ((Sample.ran "").2.sent ≠ ([], []) ∧
        (QueryError.backend (.pool "timed out")).status = .internal) ∧
      (Sample.ran "filter[where][Due]=1").2.sent = ([], []) := by
  have hsent : (Sample.ran "").2.sent ≠ ([], []) := by
    intro h
    have hnone : (Sample.ran "").2.store.sent = [] := (Prod.mk.inj h).1
    revert hnone
    decide +kernel
  have hall := blame_of_list Sample.invoiceRegistry none 100 "Invoice" "" Sample.broken
    Sample.ran_all
  have hdue := blame_of_list Sample.invoiceRegistry none 100 "Invoice" "filter[where][Due]=1"
    Sample.broken Sample.ran_due
  exact ⟨⟨hsent, (hall.2.1 hsent).1⟩, hdue.1 (.inl rfl)⟩

end Listing
