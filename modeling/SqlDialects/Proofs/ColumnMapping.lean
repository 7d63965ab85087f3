import Mathlib.Data.List.Nodup
import SqlDialects.Proofs.ColumnMapping.Rule
import SqlDialects.Proofs.List

/-!
# Mappings of columns

A mapping pairs columns of the same name, takes the columns of the input in their order, and no
column of the destination twice (`mapColumns_matches`).

Where every column of an input resolves to the column of the destination at its own place, the
mapping is the identity on places (`mapColumns_of_inOrder`), and what is left of the destination is
what stands behind.  A name resolves to a place for certain if no other place has a name like it
(`resolveName_of_unique`).
-/

set_option autoImplicit false

namespace SqlDialects

open Text

/-! ## Names that differ by more than case -/

/-- No two of the names are the same, whatever their case. -/
def DistinctNames (names : List String) : Prop := names.Pairwise fun a b => sameName a b = false

instance (names : List String) : Decidable (DistinctNames names) :=
  inferInstanceAs (Decidable (names.Pairwise _))

theorem DistinctNames.eq_of_sameName {names : List String} (h : DistinctNames names) {i j : Nat}
    {a b : String} (ha : names[i]? = some a) (hb : names[j]? = some b)
    (hsame : sameName a b = true) : i = j := by
  obtain ⟨hi, rfl⟩ := List.getElem?_eq_some_iff.mp ha
  obtain ⟨hj, rfl⟩ := List.getElem?_eq_some_iff.mp hb
  have hdistinct := List.pairwise_iff_getElem.mp h
  rcases Nat.lt_trichotomy i j with hlt | heq | hgt
  · rw [hdistinct i j hi hj hlt] at hsame
    contradiction
  · exact heq
  · rw [sameName_comm, hdistinct j i hj hi hgt] at hsame
    contradiction

/-! ## Resolution of a name -/

/-- A name with one match only resolves to it. -/
theorem resolveName_of_unique {destination : List String} {name : String} {i : Nat}
    (h : ∀ j, (∃ d, destination[j]? = some d ∧ sameName d name = true) ↔ j = i) :
    resolveName destination name = .column i := by
  have hmem : ∀ j, j ∈ matchingColumns destination name ↔ j = i := fun j =>
    mem_matchingColumns.trans (h j)
  have hnodup : (matchingColumns destination name).Nodup := List.nodup_range.filter _
  have hmatching : matchingColumns destination name = [i] :=
    List.perm_singleton.mp ((List.perm_ext_iff_of_nodup hnodup (List.nodup_singleton i)).mpr
      fun j => by rw [hmem, List.mem_singleton])
  rw [resolveName, hmatching]

/-! ## What a mapping pairs -/

/-- **A mapping pairs columns of the same name**, in the order of the input, and leads to no column
of the destination twice. -/
structure ColumnMapping.Matches (input destination : List String) (m : ColumnMapping) : Prop where
  increasing : m.pairs.Pairwise fun p q => p.1 < q.1
  apart : m.pairs.Pairwise fun p q => p.2 ≠ q.2
  sameNames : ∀ p ∈ m.pairs, ∃ a b, input[p.1]? = some a ∧ destination[p.2]? = some b ∧
    sameName b a = true

/-- **The mapping of an input** pairs columns of the same name. -/
theorem mapColumns_matches {input destination : List String} {table : String}
    {allowUnmatched : Bool} {m : ColumnMapping}
    (h : mapColumns input destination table allowUnmatched = .ok m) :
    m.Matches input destination := by
  obtain ⟨hfree, rfl⟩ := mapColumns_eq_ok_iff.mp h
  have hmapping := isMappingOf_mappingOf hfree
  refine ⟨hmapping.increasing, List.pairwise_map.mp hmapping.apart, fun p hp => ?_⟩
  obtain ⟨a, ha, hresolves⟩ := (hmapping.mem_pairs p.1 p.2).mp hp
  obtain ⟨b, hb, hlike⟩ := hresolves.exists_like
  exact ⟨a, b, ha, hb, hlike⟩

/-! ## Mappings in order -/

/-- The pairs that send each of the first `n` places to itself. -/
def identityPairs (n : Nat) : List (Nat × Nat) := (List.range n).map fun i => (i, i)

theorem identityPairs_any_snd (n i : Nat) :
    ((identityPairs n).any fun pair => decide (pair.2 = i)) = decide (i < n) := by
  rw [Bool.eq_iff_iff, List.any_eq_true]
  simp [identityPairs]

/-- Inputs that resolve to their own places are added in order. -/
theorem addInputs_of_inOrder {destination names : List String} (table : String)
    (allowUnmatched : Bool) (index : Nat)
    (h : ∀ (k : Nat) (name : String), names[k]? = some name →
      resolveName destination name = .column (index + k)) :
    addInputs destination table allowUnmatched { pairs := identityPairs index } index names =
      .ok { pairs := identityPairs (index + names.length) } := by
  induction names generalizing index with
  | nil => rfl
  | cons name names ih =>
    have hfirst : resolveName destination name = .column index := h 0 name rfl
    have hrest : ∀ (k : Nat) (other : String), names[k]? = some other →
        resolveName destination other = .column (index + 1 + k) := by
      intro k other hother
      rw [Nat.add_right_comm]
      exact h (k + 1) other hother
    have hadd : addInput destination table allowUnmatched { pairs := identityPairs index } index
        name = .ok { pairs := identityPairs (index + 1) } := by
      simp [addInput, hfirst, identityPairs, List.range_succ]
    rw [addInputs, hadd]
    show addInputs destination table allowUnmatched { pairs := identityPairs (index + 1) }
      (index + 1) names = _
    rw [ih (index + 1) hrest, List.length_cons, Nat.add_right_comm, Nat.add_assoc]

/-- **A mapping in order** leaves over what stands behind the input. -/
theorem mapColumns_of_inOrder {input destination : List String} (table : String)
    (allowUnmatched : Bool)
    (h : ∀ (i : Nat) (name : String), input[i]? = some name →
      resolveName destination name = .column i) :
    mapColumns input destination table allowUnmatched =
      .ok { pairs := identityPairs input.length
            unmatchedDestination := destination.drop input.length } := by
  have hadd := addInputs_of_inOrder table allowUnmatched 0 fun k name hname => by
    rw [Nat.zero_add]
    exact h k name hname
  rw [Nat.zero_add] at hadd
  rw [mapColumns, show ({} : ColumnMapping) = { pairs := identityPairs 0 } from rfl, hadd]
  simp only [Except.map, identityPairs_any_snd, filterMap_range_eq_drop]

end SqlDialects
