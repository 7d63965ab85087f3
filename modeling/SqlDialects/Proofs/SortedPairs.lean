import Mathlib.Data.String.Basic
import SqlDialects.SortedPairs

/-!
# What named values hold

Values are set one after the other, so what a `SortedPairs` holds in the end is told by induction on
the pairs that it was made of.

* `SortedPairs.names_insert_pairwise`, `SortedPairs.names_ofList_pairwise` — the names ascend, so
  each of them is there once.
* `SortedPairs.mem_names_ofList` — no name is lost, and none is invented.
* `SortedPairs.value?_ofList` — where no name comes twice, each has the value that it came with.
-/

set_option autoImplicit false

namespace SqlDialects.SortedPairs

variable {α : Type}

/-- The names, in order. -/
def names (pairs : SortedPairs α) : List String := pairs.map Prod.fst

theorem mem_names_insert {name other : String} {value : α} {pairs : SortedPairs α} :
    other ∈ names (insert name value pairs) ↔ other = name ∨ other ∈ names pairs := by
  induction pairs with
  | nil => simp [insert, names]
  | cons pair rest ih =>
    rw [insert]
    split
    · next heq => simp [names, heq]
    · split
      · simp [names]
      · simp only [names, List.map_cons, List.mem_cons] at ih ⊢
        rw [ih]
        exact or_left_comm

theorem names_insert_pairwise {name : String} {value : α} {pairs : SortedPairs α}
    (h : (names pairs).Pairwise (· < ·)) : (names (insert name value pairs)).Pairwise (· < ·) := by
  induction pairs with
  | nil => exact List.pairwise_singleton _ _
  | cons pair rest ih =>
    obtain ⟨hfirst, hrest⟩ := List.pairwise_cons.mp h
    rw [insert]
    split
    · next heq => exact heq ▸ h
    · next hne =>
      split
      · next hlt =>
        refine List.pairwise_cons.mpr ⟨?_, h⟩
        intro other hother
        rcases List.mem_cons.mp hother with rfl | hother
        · exact hlt
        · exact hlt.trans (hfirst other hother)
      · next hnlt =>
        refine List.pairwise_cons.mpr ⟨?_, ih hrest⟩
        intro other hother
        rcases mem_names_insert.mp hother with rfl | hother
        · exact lt_of_le_of_ne (not_lt.mp hnlt) (Ne.symm hne)
        · exact hfirst other hother

/-- The names ascend. -/
theorem names_ofList_pairwise (pairs : List (String × α)) :
    (names (ofList pairs)).Pairwise (· < ·) := by
  suffices h : ∀ sorted : SortedPairs α, (names sorted).Pairwise (· < ·) →
      (names (pairs.foldl (fun sorted pair => insert pair.1 pair.2 sorted) sorted)).Pairwise
        (· < ·) from h [] List.Pairwise.nil
  induction pairs with
  | nil => exact fun sorted h => h
  | cons pair rest ih => exact fun sorted h => ih _ (names_insert_pairwise h)

/-- The names are those of the list. -/
theorem mem_names_ofList {pairs : List (String × α)} {name : String} :
    name ∈ names (ofList pairs) ↔ name ∈ pairs.map Prod.fst := by
  suffices h : ∀ sorted : SortedPairs α,
      name ∈ names (pairs.foldl (fun sorted pair => insert pair.1 pair.2 sorted) sorted) ↔
        name ∈ pairs.map Prod.fst ∨ name ∈ names sorted by
    simpa [names, ofList] using h []
  induction pairs with
  | nil => simp
  | cons pair rest ih =>
    intro sorted
    rw [List.foldl_cons, ih, mem_names_insert, List.map_cons, List.mem_cons]
    exact or_left_comm.trans or_assoc.symm

theorem value?_foldl_insert {pairs : List (String × α)} {name : String} {value : α}
    (hnodup : (pairs.map Prod.fst).Nodup) (sorted : SortedPairs α)
    (h : (name, value) ∈ pairs ∨ name ∉ pairs.map Prod.fst ∧ value? name sorted = some value) :
    value? name (pairs.foldl (fun sorted pair => insert pair.1 pair.2 sorted) sorted) =
      some value := by
  induction pairs generalizing sorted with
  | nil => simpa using h
  | cons pair rest ih =>
    rw [List.map_cons, List.nodup_cons] at hnodup
    obtain ⟨hnot, hnodup⟩ := hnodup
    refine ih hnodup _ ?_
    rw [value?_insert]
    rcases h with h | ⟨hname, hvalue⟩
    · rcases List.mem_cons.mp h with rfl | h
      · exact .inr ⟨hnot, if_pos rfl⟩
      · exact .inl h
    · rw [List.map_cons, List.mem_cons, not_or] at hname
      exact .inr ⟨hname.2, by rw [if_neg hname.1, hvalue]⟩

/-- Where no name comes twice, each has the value that it came with. -/
theorem value?_ofList {pairs : List (String × α)} {name : String} {value : α}
    (hnodup : (pairs.map Prod.fst).Nodup) (h : (name, value) ∈ pairs) :
    value? name (ofList pairs) = some value :=
  value?_foldl_insert hnodup [] (.inl h)

end SqlDialects.SortedPairs
