import SqlDialects.Proofs.ColumnMapping

/-!
# Names that mean the first column like them

A name may be looked up in two ways: a mapping resolves it to the only column like it, or to the one
that is spelled exactly alike, and a simple search takes the first column like it.  This file says
when the two come to the same.

* **`IsPlainIn`** — no other column is like the name, or the first one is spelled exactly alike.
  Plain names, and only they, resolve to the first match (`resolveName_of_isPlainIn`,
  `isPlainIn_of_resolveName`).
* **A strict mapping**, which leaves out no column of the input, takes the places that the names
  resolve to, all different (`mapColumns_strict_iff`).
* **`NamedPlainly`** — the names are plain and pairwise different.  Then a strict mapping is a
  search for the first matches (`mapColumns_of_namedPlainly`).
-/

set_option autoImplicit false

namespace SqlDialects

open Text

/-! ## First matches -/

/-- The place of the first column of the destination that is like the name. -/
def firstMatch (destination : List String) (name : String) : Option Nat :=
  destination.findIdx? fun d => sameName d name

variable {destination : List String}

theorem head?_matchingColumns (destination : List String) (name : String) :
    (matchingColumns destination name).head? = firstMatch destination name := by
  refine Option.ext fun i => ?_
  rw [matchingColumns, List.head?_filter, List.find?_range_eq_some, firstMatch,
    List.findIdx?_eq_some_iff_getElem, List.mem_range]
  constructor
  · rintro ⟨hlike, hi, hbefore⟩
    refine ⟨hi, by simpa [hi] using hlike, fun j hj => ?_⟩
    simpa [Nat.lt_trans hj hi] using hbefore j hj
  · rintro ⟨hi, hlike, hbefore⟩
    refine ⟨by simpa [hi] using hlike, hi, fun j hj => ?_⟩
    simpa [Nat.lt_trans hj hi] using hbefore j hj

/-- The first column like a name stands at the first match. -/
theorem find?_eq_firstMatch (destination : List String) (name : String) :
    destination.find? (fun d => sameName d name) =
      (firstMatch destination name).bind fun i => destination[i]? :=
  List.find?_eq_bind_findIdx?_getElem?

/-! ## Plain names -/

/-- **A plain name** means the first column like it: no other column is like the name, or the first
one is spelled exactly alike. -/
def IsPlainIn (destination : List String) (name : String) : Prop :=
  destination.find? (fun d => sameName d name) = some name ∨
    destination.countP (fun d => sameName d name) ≤ 1

instance (destination : List String) (name : String) : Decidable (IsPlainIn destination name) :=
  inferInstanceAs (Decidable (_ ∨ _))

theorem resolveName_of_isPlainIn {name : String} {i : Nat}
    (hfirst : firstMatch destination name = some i) (hplain : IsPlainIn destination name) :
    resolveName destination name = .column i := by
  rw [← head?_matchingColumns] at hfirst
  obtain ⟨more, hmatching⟩ := List.head?_eq_some_iff.mp hfirst
  rw [resolveName, hmatching]
  cases more with
  | nil => rfl
  | cons next more =>
    -- with two matches, the first has to be spelled alike
    have hexact : destination.find? (fun d => sameName d name) = some name := by
      refine hplain.resolve_right fun hcount => ?_
      rw [← length_matchingColumns, hmatching] at hcount
      simp at hcount
    rw [find?_eq_firstMatch, ← head?_matchingColumns, hfirst] at hexact
    have hfound : destination[i]? = some name := hexact
    simp [hfound]

/-- A name is plain if what it resolves to is the first column like it. -/
theorem isPlainIn_of_resolveName {name : String} {j : Nat}
    (h : resolveName destination name = .column j)
    (hsame : destination[j]? = destination.find? fun d => sameName d name) :
    IsPlainIn destination name := by
  rw [resolveName] at h
  split at h
  · contradiction
  · next only hmatching =>
    refine .inr ?_
    rw [← length_matchingColumns, hmatching]
    exact Nat.le_refl 1
  · split at h
    · next exactly hfind =>
      obtain rfl := Resolution.column.inj h
      have hexact : destination[exactly]? = some name := by
        simpa using List.find?_some hfind
      exact .inl (hsame.symm.trans hexact)
    · contradiction

/-! ## Strict mappings -/

/-- The places in the destination, in the order of the input. -/
def ColumnMapping.places (m : ColumnMapping) : List Nat := m.pairs.map Prod.snd

/-- Where no name offends a strict mapping, every name resolves to a column. -/
theorem map_resolveName_of_not_offends {input : List String} {table : String}
    (h : ∀ i e, ¬ Offends destination table false input i e) :
    input.map (resolveName destination) =
      (mappingOf destination input).places.map Resolution.column := by
  obtain ⟨hambiguous, -, hunmatched⟩ := forall_not_offends_iff.mp h
  have hcolumn : ∀ name ∈ input, (resolveName destination name).place?.map Resolution.column =
      some (resolveName destination name) := by
    intro name hname
    cases hresolves : resolveName destination name with
    | column d => rfl
    | ambiguous => exact absurd (resolvesTo_iff.mpr hresolves) (hambiguous name hname)
    | unmatched =>
      exact absurd (resolvesTo_iff.mpr hresolves)
        (hunmatched.resolve_left Bool.false_ne_true name hname)
  show _ = ((mappedPairs destination input).map Prod.snd).map Resolution.column
  rw [map_snd_mappedPairs, List.map_filterMap, List.filterMap_congr hcolumn,
    ← List.filterMap_eq_map]
  rfl

section Places

variable {input : List String} {places : List Nat}
  (h : input.map (resolveName destination) = places.map Resolution.column)

include h

theorem exists_place_of_map_resolveName {i : Nat} {name : String} (hname : input[i]? = some name) :
    ∃ d, places[i]? = some d ∧ resolveName destination name = .column d := by
  have hi := congrArg (fun l : List Resolution => l[i]?) h
  simp only [List.getElem?_map, hname, Option.map_some] at hi
  obtain ⟨d, hd, heq⟩ := Option.map_eq_some_iff.mp hi.symm
  exact ⟨d, hd, heq.symm⟩

theorem exists_column_of_map_resolveName {name : String} (hname : name ∈ input) :
    ∃ d, resolveName destination name = .column d := by
  obtain ⟨i, hi⟩ := List.getElem?_of_mem hname
  exact (exists_place_of_map_resolveName h hi).imp fun _ hplace => hplace.2

/-- Names that resolve to different columns do not offend. -/
theorem not_offends_of_map_resolveName (hnodup : places.Nodup) (table : String) :
    ∀ i e, ¬ Offends destination table false input i e := by
  refine forall_not_offends_iff.mpr ⟨fun name hname hambiguous => ?_,
    fun i j a b d ha hb hda hdb => ?_, .inr fun name hname hunmatched => ?_⟩
  · obtain ⟨d, hd⟩ := exists_column_of_map_resolveName h hname
    nomatch hd.symm.trans hambiguous.resolveName_eq
  · obtain ⟨c, hi, hc⟩ := exists_place_of_map_resolveName h ha
    obtain ⟨e, hj, he⟩ := exists_place_of_map_resolveName h hb
    obtain rfl := Resolution.column.inj (hc.symm.trans hda.resolveName_eq)
    obtain rfl := Resolution.column.inj (he.symm.trans hdb.resolveName_eq)
    exact (List.getElem?_inj (List.getElem?_eq_some_iff.mp hi).1 hnodup).mp (hi.trans hj.symm)
  · obtain ⟨d, hd⟩ := exists_column_of_map_resolveName h hname
    nomatch hd.symm.trans hunmatched.resolveName_eq

theorem places_mappingOf : (mappingOf destination input).places = places := by
  have hnames := congrArg (List.filterMap Resolution.place?) h
  rw [List.filterMap_map, List.filterMap_map] at hnames
  exact (map_snd_mappedPairs input).trans (hnames.trans List.filterMap_some)

end Places

/-- **A strict mapping** takes the places that the names resolve to, no two of them the same. -/
theorem mapColumns_strict_iff {input : List String} {table : String} {places : List Nat} :
    (∃ m, mapColumns input destination table false = .ok m ∧ m.places = places) ↔
      input.map (resolveName destination) = places.map Resolution.column ∧ places.Nodup := by
  constructor
  · rintro ⟨m, hm, rfl⟩
    obtain ⟨hfree, rfl⟩ := mapColumns_eq_ok_iff.mp hm
    exact ⟨map_resolveName_of_not_offends hfree, (isMappingOf_mappingOf hfree).apart⟩
  · rintro ⟨h, hnodup⟩
    have hfree := not_offends_of_map_resolveName h hnodup table
    exact ⟨mappingOf destination input, mapColumns_eq_ok_iff.mpr ⟨hfree, rfl⟩, places_mappingOf h⟩

/-! ## Plain names of an input -/

/-- **Names that are plain** and pairwise different, whatever their case. -/
structure NamedPlainly (destination names : List String) : Prop where
  plain : ∀ name ∈ names, IsPlainIn destination name
  distinct : DistinctNames names

/-- Names have the same first match if they are the same, whatever their case. -/
theorem firstMatch_eq_iff {a b : String} {i j : Nat} (ha : firstMatch destination a = some i)
    (hb : firstMatch destination b = some j) : i = j ↔ sameName a b = true := by
  constructor
  · rintro rfl
    obtain ⟨_, hlike, -⟩ := List.findIdx?_eq_some_iff_getElem.mp ha
    obtain ⟨_, hlike', -⟩ := List.findIdx?_eq_some_iff_getElem.mp hb
    exact sameName_trans (sameName_comm a _ ▸ hlike) hlike'
  · intro hsame
    have hlower : lower a.toList = lower b.toList := by simpa [sameName] using hsame
    have hlike : (fun d => sameName d a) = fun d => sameName d b := by
      funext d
      rw [sameName, sameName, hlower]
    rw [firstMatch, hlike, ← firstMatch, hb] at ha
    exact (Option.some.inj ha).symm

section FirstMatches

variable {names : List String} {places : List Nat}

/-- What stands at the first matches. -/
theorem map_bind_firstMatch (h : names.map (firstMatch destination) = places.map some)
    {α : Type} (l : List α) :
    (names.map fun name => (firstMatch destination name).bind fun i => l[i]?) =
      places.map fun i => l[i]? := by
  have hbind := congrArg (List.map fun first : Option Nat => first.bind fun i => l[i]?) h
  rwa [List.map_map, List.map_map] at hbind

theorem nodup_firstMatches_iff (h : names.map (firstMatch destination) = places.map some) :
    places.Nodup ↔ DistinctNames names := by
  have hsome : ∀ name ∈ names, ∃ i, firstMatch destination name = some i := by
    intro name hname
    obtain ⟨i, -, hi⟩ := List.mem_map.mp (h ▸ List.mem_map_of_mem hname)
    exact ⟨i, hi.symm⟩
  rw [← List.nodup_map_iff fun _ _ => Option.some.inj, ← h, List.Nodup, List.pairwise_map,
    DistinctNames]
  refine List.Pairwise.iff_of_mem fun {a b} ha hb => ?_
  obtain ⟨i, hi⟩ := hsome a ha
  obtain ⟨j, hj⟩ := hsome b hb
  rw [hi, hj, ne_eq, Option.some.injEq, firstMatch_eq_iff hi hj, Bool.not_eq_true]

theorem map_resolveName_of_isPlainIn (h : names.map (firstMatch destination) = places.map some)
    (hplain : ∀ name ∈ names, IsPlainIn destination name) :
    names.map (resolveName destination) = places.map Resolution.column := by
  induction names generalizing places with
  | nil =>
    obtain rfl := List.map_eq_nil_iff.mp h.symm
    rfl
  | cons name names ih =>
    obtain ⟨i, rest, rfl, hi, hrest⟩ := List.map_eq_cons_iff.mp h.symm
    rw [List.forall_mem_cons] at hplain
    rw [List.map_cons, List.map_cons, resolveName_of_isPlainIn hi.symm hplain.1,
      ih hrest.symm hplain.2]

theorem isPlainIn_of_map_resolveName
    (h : names.map (resolveName destination) = places.map Resolution.column)
    (hspelled : (places.map fun i => destination[i]?) =
      names.map fun name => destination.find? fun d => sameName d name) :
    ∀ name ∈ names, IsPlainIn destination name := by
  induction names generalizing places with
  | nil => exact List.forall_mem_nil _
  | cons name names ih =>
    obtain ⟨i, rest, rfl, hi, hrest⟩ := List.map_eq_cons_iff.mp h.symm
    rw [List.map_cons, List.map_cons] at hspelled
    obtain ⟨hfirst, hothers⟩ := List.cons.inj hspelled
    exact List.forall_mem_cons.mpr
      ⟨isPlainIn_of_resolveName hi.symm hfirst, ih hrest.symm hothers⟩

/-- **Plain names are mapped to their first matches.** -/
theorem mapColumns_of_namedPlainly (h : names.map (firstMatch destination) = places.map some)
    (hplain : NamedPlainly destination names) (table : String) :
    ∃ m, mapColumns names destination table false = .ok m ∧ m.places = places :=
  mapColumns_strict_iff.mpr ⟨map_resolveName_of_isPlainIn h hplain.plain,
    (nodup_firstMatches_iff h).mpr hplain.distinct⟩

/-- Names that are mapped to columns spelled like their first matches are plain. -/
theorem namedPlainly_of_mapColumns (h : names.map (firstMatch destination) = places.map some)
    {table : String} {m : ColumnMapping}
    (hm : mapColumns names destination table false = .ok m)
    (hspelled : (m.places.map fun i => destination[i]?) = places.map fun i => destination[i]?) :
    NamedPlainly destination names := by
  obtain ⟨hresolves, hnodup⟩ := mapColumns_strict_iff.mp ⟨m, hm, rfl⟩
  have hfirsts : (names.map fun name => destination.find? fun d => sameName d name) =
      places.map fun i => destination[i]? := by
    simp only [find?_eq_firstMatch]
    exact map_bind_firstMatch h destination
  have hplain := isPlainIn_of_map_resolveName hresolves (hspelled.trans hfirsts.symm)
  have hplaces : places = m.places :=
    List.map_injective_iff.mpr (fun _ _ => Resolution.column.inj)
      ((map_resolveName_of_isPlainIn h hplain).symm.trans hresolves)
  exact ⟨hplain, (nodup_firstMatches_iff h).mp (hplaces ▸ hnodup)⟩

end FirstMatches

end SqlDialects
