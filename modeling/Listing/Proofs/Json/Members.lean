import Listing.Json.Basic
import Mathlib.Data.List.Nodup
import Mathlib.Data.List.Perm.Basic
import Mathlib.Data.String.Basic

/-!
# Reading Objects Back

An object that is made of pairs has, under each name, what the last pair of that name says. Pairs
of different names can be added in any order, and no pair is lost. An object has its names in
order, each once (`Ordered`), and such an object is made of its own members.
-/

namespace Listing.Members

/-- Pairs that are added to an object **replace** what it has under their names. -/
theorem get?_foldl_insert (pairs : List (String × Json)) (name : String) : ∀ members : Members,
    Members.get? name
        (pairs.foldl (fun members pair => Members.insert pair.1 pair.2 members) members) =
      ((pairs.reverse.find? (·.1 = name)).map (·.2)).or (Members.get? name members) := by
  induction pairs with
  | nil => intro members; rfl
  | cons p rest ih =>
      intro members
      rw [List.foldl_cons, ih, get?_insert, List.reverse_cons, List.find?_append]
      cases rest.reverse.find? (·.1 = name) with
      | some found => rfl
      | none => by_cases h : p.1 = name <;> simp [h]

/-- Of several pairs with a name the **last** counts. -/
theorem get?_ofPairs (pairs : List (String × Json)) (name : String) :
    Members.get? name (ofPairs pairs) = (pairs.reverse.find? (·.1 = name)).map (·.2) := by
  rw [ofPairs, get?_foldl_insert, get?, Option.or_none]

/-- What is stored under two names can be stored in **either order**. -/
theorem insert_comm {a b : String} (h : a ≠ b) (x y : Json) (members : Members) :
    insert a x (insert b y members) = insert b y (insert a x members) := by
  induction members with
  | nil => grind [insert]
  | cons member rest ih => grind [insert]

/-- Pairs of different names can be added in **any order**. -/
theorem foldl_insert_of_perm {pairs pairs' : List (String × Json)} (h : pairs.Perm pairs')
    (hnodup : (pairs.map (·.1)).Nodup) (members : Members) :
    pairs.foldl (fun members pair => insert pair.1 pair.2 members) members =
      pairs'.foldl (fun members pair => insert pair.1 pair.2 members) members := by
  refine h.foldl_eq' (fun p hp q hq members => ?_) members
  by_cases hpq : p = q
  · rw [hpq]
  · have hname : p.1 ≠ q.1 := mt (List.inj_on_of_nodup_map hnodup hp hq) hpq
    exact insert_comm hname.symm _ _ _

/-- An **ordered** object has its names in order, each once. -/
def Ordered (members : Members) : Prop := members.Pairwise (·.1 < ·.1)

/-- What is stored under a name behind all others is put at the end. -/
theorem insert_eq_append {members : Members} {name : String} (h : ∀ p ∈ members, p.1 < name)
    (value : Json) : insert name value members = members ++ [(name, value)] := by
  induction members with
  | nil => rfl
  | cons member rest ih =>
      obtain ⟨hlt, hrest⟩ := List.forall_mem_cons.mp h
      rw [insert, if_neg hlt.not_gt, if_neg hlt.ne', ih hrest, List.cons_append]

/-- An ordered object is **made of its members**. -/
theorem ofPairs_of_ordered {members : Members} (h : Ordered members) :
    ofPairs members = members := by
  -- The members that are there already are in front.
  suffices hfold : ∀ before : Members, Ordered (before ++ members) →
      members.foldl (fun members pair => insert pair.1 pair.2 members) before =
        before ++ members from hfold [] h
  clear h
  induction members with
  | nil => simp
  | cons member rest ih =>
      intro before h
      have hlast : ∀ p ∈ before, p.1 < member.1 := fun p hp =>
        (List.pairwise_append.mp h).2.2 p hp member List.mem_cons_self
      rw [List.foldl_cons, insert_eq_append hlast, ih _ (by simpa using h)]
      simp

/-- A pair of a new name is **added** to an object. -/
theorem insert_perm {members : Members} {name : String} (h : name ∉ members.map (·.1))
    (value : Json) : (insert name value members).Perm ((name, value) :: members) := by
  induction members with
  | nil => exact .refl _
  | cons member rest ih =>
      obtain ⟨k, v⟩ := member
      obtain ⟨hne, hrest⟩ : name ≠ k ∧ name ∉ rest.map (·.1) := by simpa using h
      rw [insert, if_neg hne]
      split
      · exact .refl _
      · exact ((ih hrest).cons _).trans (.swap ..)

/-- Of pairs of different names **none is lost**. -/
theorem ofPairs_perm {pairs : List (String × Json)} (h : (pairs.map (·.1)).Nodup) :
    (ofPairs pairs).Perm pairs := by
  -- The pairs that are there already have other names.
  suffices hfold : ∀ before : Members, ((pairs ++ before).map (·.1)).Nodup →
      (pairs.foldl (fun members pair => insert pair.1 pair.2 members) before).Perm
        (pairs ++ before) by
    simpa [ofPairs] using hfold [] (by simpa using h)
  clear h
  induction pairs with
  | nil => exact fun before _ => .refl _
  | cons pair rest ih =>
      intro before h
      have hbefore : pair.1 ∉ before.map (·.1) := by
        rw [List.cons_append, List.map_cons, List.map_append] at h
        exact fun hmem => (List.nodup_cons.mp h).1 (List.mem_append_right _ hmem)
      have hperm : (rest ++ insert pair.1 pair.2 before).Perm (pair :: rest ++ before) :=
        ((insert_perm hbefore pair.2).append_left rest).trans List.perm_middle
      exact (ih _ ((hperm.map _).nodup_iff.mpr h)).trans hperm

/-- There is a document under each name of an object, and under no other. -/
theorem isSome_get?_iff {members : Members} {name : String} :
    (get? name members).isSome ↔ name ∈ members.map (·.1) := by
  induction members with
  | nil => simp [get?]
  | cons member rest ih =>
      obtain ⟨k, v⟩ := member
      by_cases h : k = name
      · simp [get?, h]
      · rw [get?, if_neg h, ih, List.map_cons, List.mem_cons, or_iff_right (Ne.symm h)]

/-- An object of pairs has their names **only**. -/
theorem mem_of_mem_ofPairs {pairs : List (String × Json)} {name : String}
    (h : name ∈ (ofPairs pairs).map (·.1)) : name ∈ pairs.map (·.1) := by
  rw [← isSome_get?_iff, get?_ofPairs, Option.isSome_map, List.find?_isSome] at h
  obtain ⟨pair, hpair, hname⟩ := h
  exact List.mem_map.mpr ⟨pair, List.mem_reverse.mp hpair, by simpa using hname⟩

end Listing.Members
