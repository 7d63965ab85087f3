import Mathlib.Data.List.Basic
import Mathlib.Data.Nat.Find
import SqlDialects.ColumnMapping
import SqlDialects.Proofs.List

/-!
# The rule of column mappings

A mapping is made by going through the columns of an input, which takes columns of the destination
away as it goes.  What it comes to can be said of the input as a whole.

* **`ResolvesTo`** — what a single name means: the only column like it, or among several the first
  one spelled alike.  Every name resolves to one thing only (`resolvesTo_iff`).
* **`Offends`** — a column of the input that cannot be mapped: it is ambiguous, or unmatched where
  that is not allowed, or a column in front of it resolves to the same place.
* **The run** through an input stops at the first column that offends, and otherwise gives the pairs
  of all names that resolve to a column (`addInputs_cases`).
* **`mapColumns_follows_rule`** — the mapping as a whole.
-/

set_option autoImplicit false

namespace SqlDialects

open Text

/-! ## Columns like a name -/

theorem mem_matchingColumns {destination : List String} {name : String} {i : Nat} :
    i ∈ matchingColumns destination name ↔
      ∃ d, destination[i]? = some d ∧ sameName d name = true := by
  rw [matchingColumns, List.mem_filter, List.mem_range, Option.any_eq_true]
  constructor
  · exact fun h => h.2
  · rintro ⟨d, hd, hsame⟩
    exact ⟨(List.getElem?_eq_some_iff.mp hd).1, d, hd, hsame⟩

theorem length_matchingColumns (destination : List String) (name : String) :
    (matchingColumns destination name).length =
      destination.countP fun d => sameName d name := by
  have hplaces : (List.range destination.length).map (fun i => destination[i]?) =
      destination.map some := by
    refine List.ext_getElem (by simp) fun i hi _ => ?_
    simp at hi
    simp [hi]
  calc (matchingColumns destination name).length
      = ((List.range destination.length).map fun i => destination[i]?).countP
          (Option.any fun d => sameName d name) := by
        rw [matchingColumns, ← List.countP_eq_length_filter, List.countP_map]
        rfl
    _ = destination.countP fun d => sameName d name := by
        rw [hplaces, List.countP_map]
        rfl

/-- **What a name resolves to** among the columns of a destination, where columns are like it if
they are the same up to case. -/
inductive ResolvesTo (destination : List String) (name : String) : Resolution → Prop
  | unmatched (h : ∀ d ∈ destination, sameName d name = false) :
    ResolvesTo destination name .unmatched
  /-- One column only is like the name. -/
  | only {i : Nat} {d : String} (hcount : destination.countP (fun d => sameName d name) = 1)
    (hi : destination[i]? = some d) (hlike : sameName d name = true) :
    ResolvesTo destination name (.column i)
  /-- Several columns are like the name, and this is the first that is the same. -/
  | exactly {i : Nat} (hcount : 1 < destination.countP fun d => sameName d name)
    (hi : destination[i]? = some name) (hfirst : ∀ j < i, destination[j]? ≠ some name) :
    ResolvesTo destination name (.column i)
  /-- Several columns are like the name, and none is the same. -/
  | ambiguous (hcount : 1 < destination.countP fun d => sameName d name)
    (hnone : name ∉ destination) : ResolvesTo destination name .ambiguous

variable {destination : List String} {name : String}

theorem exists_resolvesTo (destination : List String) (name : String) :
    ∃ r, ResolvesTo destination name r := by
  rcases Nat.lt_trichotomy (destination.countP fun d => sameName d name) 1 with h | h | h
  · exact ⟨_, .unmatched fun d hd => Bool.eq_false_iff.mpr
      (List.countP_eq_zero.mp (Nat.lt_one_iff.mp h) d hd)⟩
  · obtain ⟨d, hd, hlike⟩ := List.countP_pos_iff.mp (h ▸ Nat.one_pos)
    obtain ⟨i, hi⟩ := List.getElem?_of_mem hd
    exact ⟨_, .only h hi hlike⟩
  · by_cases hname : name ∈ destination
    · have hplace : ∃ i, destination[i]? = some name := List.getElem?_of_mem hname
      exact ⟨_, .exactly h (Nat.find_spec hplace) fun j hj => Nat.find_min hplace hj⟩
    · exact ⟨_, .ambiguous h hname⟩

/-- The places that match a name, where there are several, are searched in order for the name. -/
theorem resolveName_of_several (h : 1 < destination.countP fun d => sameName d name) :
    resolveName destination name =
      match (List.range destination.length).find? fun i => destination[i]? == some name with
      | some i => .column i
      | none => .ambiguous := by
  have hfind : (matchingColumns destination name).find? (fun i => destination[i]? == some name) =
      (List.range destination.length).find? fun i => destination[i]? == some name := by
    rw [matchingColumns, List.find?_filter]
    congr 1
    funext i
    by_cases hi : destination[i]? = some name
    · simp [hi, sameName_refl]
    · simp [hi]
  rw [← length_matchingColumns] at h
  rw [resolveName, ← hfind]
  cases hmatching : matchingColumns destination name with
  | nil => simp [hmatching] at h
  | cons first more =>
    cases more with
    | nil => simp [hmatching] at h
    | cons second more => rfl

theorem ResolvesTo.resolveName_eq {r : Resolution} (h : ResolvesTo destination name r) :
    resolveName destination name = r := by
  cases h with
  | unmatched h =>
    have hnone : matchingColumns destination name = [] := by
      rw [← List.length_eq_zero_iff, length_matchingColumns, List.countP_eq_zero]
      exact fun d hd => Bool.eq_false_iff.mp (h d hd)
    rw [resolveName, hnone]
  | @only i d hcount hi hlike =>
    rw [← length_matchingColumns] at hcount
    obtain ⟨j, hj⟩ := List.length_eq_one_iff.mp hcount
    have hmem := mem_matchingColumns.mpr ⟨d, hi, hlike⟩
    rw [hj, List.mem_singleton] at hmem
    rw [resolveName, hj, hmem]
  | @exactly i hcount hi hfirst =>
    have hfind : (List.range destination.length).find? (fun i => destination[i]? == some name) =
        some i := by
      rw [List.find?_range_eq_some, List.mem_range]
      exact ⟨by simp [hi], (List.getElem?_eq_some_iff.mp hi).1, by simpa using hfirst⟩
    rw [resolveName_of_several hcount, hfind]
  | ambiguous hcount hnone =>
    have hfind : (List.range destination.length).find? (fun i => destination[i]? == some name) =
        none := by
      rw [List.find?_eq_none]
      intro i _ hi
      exact hnone (List.mem_of_getElem? (beq_iff_eq.mp hi))
    rw [resolveName_of_several hcount, hfind]

/-- **A name resolves to one thing only.** -/
theorem resolvesTo_iff {r : Resolution} :
    ResolvesTo destination name r ↔ resolveName destination name = r := by
  refine ⟨ResolvesTo.resolveName_eq, ?_⟩
  rintro rfl
  obtain ⟨r, hr⟩ := exists_resolvesTo destination name
  exact hr.resolveName_eq ▸ hr

theorem resolvesTo_unmatched_iff : ResolvesTo destination name .unmatched ↔
    ∀ d ∈ destination, sameName d name = false := by
  refine ⟨fun h => ?_, .unmatched⟩
  cases h with
  | unmatched h => exact h

/-- A name resolves to a column that has the name. -/
theorem ResolvesTo.exists_like {i : Nat} (h : ResolvesTo destination name (.column i)) :
    ∃ d, destination[i]? = some d ∧ sameName d name = true := by
  cases h with
  | only _ hi hlike => exact ⟨_, hi, hlike⟩
  | exactly _ hi _ => exact ⟨name, hi, sameName_refl name⟩

/-- The place of the column that a name resolves to, if it is one. -/
def Resolution.place? : Resolution → Option Nat
  | .column d => some d
  | _ => none

theorem Resolution.place?_eq_some_iff {r : Resolution} {d : Nat} :
    r.place? = some d ↔ r = .column d := by
  cases r <;> simp [place?]

/-! ## Columns that cannot be mapped -/

section Rule

variable (destination : List String) (table : String) (allowUnmatched : Bool)

/-- **What is wrong with a column** of an input that stands behind the given ones. -/
inductive IsAtFault (before : List String) (name : String) : SqlError → Prop
  | ambiguous (h : ResolvesTo destination name .ambiguous) :
    IsAtFault before name (.invalidArgument (.ambiguousColumn name table))
  /-- A column before it resolves to the same place. -/
  | taken {d : Nat} {column other : String} (h : ResolvesTo destination name (.column d))
    (hcolumn : destination[d]? = some column) (hother : other ∈ before)
    (htaken : ResolvesTo destination other (.column d)) :
    IsAtFault before name (.invalidArgument (.columnTakenTwice column table))
  | unmatched (h : ResolvesTo destination name .unmatched) (hstrict : allowUnmatched = false) :
    IsAtFault before name (.columnMapping name table)

/-- The column of an input at the given place cannot be mapped. -/
def Offends (input : List String) (i : Nat) (e : SqlError) : Prop :=
  ∃ name, input[i]? = some name ∧
    IsAtFault destination table allowUnmatched (input.take i) name e

/-- **The first column of an input that cannot be mapped**, by what is wrong with it. -/
def FirstOffence (input : List String) (e : SqlError) : Prop :=
  ∃ i, Offends destination table allowUnmatched input i e ∧
    ∀ j < i, ∀ other, ¬ Offends destination table allowUnmatched input j other

/-- The columns of an input that resolve to a column, each with that column. -/
def mappedPairs (input : List String) : List (Nat × Nat) :=
  input.zipIdx.filterMap fun column =>
    (resolveName destination column.1).place?.map fun d => (column.2, d)

/-- The columns of an input that no column is like. -/
def unmatchedNames (input : List String) : List String :=
  input.filter fun name => resolveName destination name = .unmatched

/-- The mapping of the columns of an input so far. -/
def mappingSoFar (input : List String) : ColumnMapping where
  pairs := mappedPairs destination input
  unmatchedInput := unmatchedNames destination input

variable {destination table allowUnmatched}

theorem mem_mappedPairs {input : List String} {i d : Nat} :
    (i, d) ∈ mappedPairs destination input ↔
      ∃ name, input[i]? = some name ∧ ResolvesTo destination name (.column d) := by
  simp only [mappedPairs, List.mem_filterMap, Prod.exists, List.mem_zipIdx_iff_getElem?,
    Option.map_eq_some_iff, Resolution.place?_eq_some_iff, resolvesTo_iff, Prod.mk.injEq]
  constructor
  · rintro ⟨name, _, hname, _, hresolves, rfl, rfl⟩
    exact ⟨name, hname, hresolves⟩
  · rintro ⟨name, hname, hresolves⟩
    exact ⟨name, i, hname, d, hresolves, rfl, rfl⟩

theorem mappedPairs_increasing (input : List String) :
    (mappedPairs destination input).Pairwise fun p q => p.1 < q.1 := by
  have hplaces : input.zipIdx.Pairwise fun a b => a.2 < b.2 := by
    rw [← List.pairwise_map, List.zipIdx_map_snd]
    exact List.pairwise_lt_range' 1
  refine hplaces.filterMap _ fun a b hab p hp q hq => ?_
  obtain ⟨_, -, rfl⟩ := Option.map_eq_some_iff.mp hp
  obtain ⟨_, -, rfl⟩ := Option.map_eq_some_iff.mp hq
  exact hab

/-- The places that the names resolve to. -/
theorem map_snd_mappedPairs (input : List String) : (mappedPairs destination input).map Prod.snd =
    input.filterMap fun name => (resolveName destination name).place? := by
  conv_rhs => rw [← List.zipIdx_map_fst 0 input, List.filterMap_map]
  rw [mappedPairs, List.map_filterMap]
  refine List.filterMap_congr fun column _ => ?_
  rw [Option.map_map]
  exact Option.map_id'

theorem mappingSoFar_concat (before : List String) (name : String) :
    mappingSoFar destination (before ++ [name]) =
      match resolveName destination name with
      | .column d => { mappingSoFar destination before with
          pairs := mappedPairs destination before ++ [(before.length, d)] }
      | .unmatched => { mappingSoFar destination before with
          unmatchedInput := unmatchedNames destination before ++ [name] }
      | .ambiguous => mappingSoFar destination before := by
  simp only [mappingSoFar, mappedPairs, unmatchedNames, List.zipIdx_append, List.filterMap_append,
    List.filter_append, List.zipIdx_singleton]
  cases h : resolveName destination name <;> simp [h, Resolution.place?]

/-! ## The run through an input -/

theorem any_mappedPairs_iff {before : List String} {d : Nat} :
    ((mappedPairs destination before).any fun pair => decide (pair.2 = d)) = true ↔
      ∃ other ∈ before, ResolvesTo destination other (.column d) := by
  simp only [List.any_eq_true, decide_eq_true_eq, Prod.exists, exists_eq_right, mem_mappedPairs]
  constructor
  · rintro ⟨i, other, hi, hother⟩
    exact ⟨other, List.mem_of_getElem? hi, hother⟩
  · rintro ⟨other, hmem, hother⟩
    obtain ⟨i, hi⟩ := List.getElem?_of_mem hmem
    exact ⟨i, other, hi, hother⟩

theorem offends_iff {before rest : List String} {e : SqlError} :
    Offends destination table allowUnmatched (before ++ name :: rest) before.length e ↔
      IsAtFault destination table allowUnmatched before name e := by
  simp [Offends]

variable (destination table allowUnmatched)

/-- **One more column** is at fault and ends the run, or joins the mapping. -/
theorem addInput_cases (before : List String) (name : String) :
    (∃ e, IsAtFault destination table allowUnmatched before name e ∧
      addInput destination table allowUnmatched (mappingSoFar destination before) before.length
        name = .error e) ∨
    ((∀ e, ¬ IsAtFault destination table allowUnmatched before name e) ∧
      addInput destination table allowUnmatched (mappingSoFar destination before) before.length
        name = .ok (mappingSoFar destination (before ++ [name]))) := by
  rw [addInput, mappingSoFar_concat]
  cases hresolves : resolveName destination name with
  | ambiguous => exact .inl ⟨_, .ambiguous (resolvesTo_iff.mpr hresolves), rfl⟩
  | unmatched =>
    cases allowUnmatched with
    | false => exact .inl ⟨_, .unmatched (resolvesTo_iff.mpr hresolves) rfl, rfl⟩
    | true =>
      refine .inr ⟨fun e he => ?_, rfl⟩
      cases he with
      | ambiguous h | taken h => nomatch hresolves.symm.trans h.resolveName_eq
      | unmatched _ hstrict => nomatch hstrict
  | column d =>
    have hd := resolvesTo_iff.mpr hresolves
    by_cases htaken : ∃ other ∈ before, ResolvesTo destination other (.column d)
    · obtain ⟨column, hcolumn, -⟩ := hd.exists_like
      obtain ⟨other, hother, hsame⟩ := htaken
      refine .inl ⟨_, .taken hd hcolumn hother hsame, ?_⟩
      refine (if_pos (any_mappedPairs_iff.mpr ⟨other, hother, hsame⟩)).trans ?_
      rw [List.getD_eq_getElem?_getD, hcolumn, Option.getD_some]
    · refine .inr ⟨fun e he => ?_, ?_⟩
      · cases he with
        | ambiguous h | unmatched h => nomatch hresolves.symm.trans h.resolveName_eq
        | taken h _ hother hsame =>
          obtain rfl := Resolution.column.inj (hresolves.symm.trans h.resolveName_eq)
          exact htaken ⟨_, hother, hsame⟩
      · exact if_neg (mt any_mappedPairs_iff.mp htaken)

/-- **The run through an input** stops at the first column that offends, or gives the mapping of
all. -/
theorem addInputs_cases (before names : List String)
    (hbefore : ∀ i < before.length, ∀ e,
      ¬ Offends destination table allowUnmatched (before ++ names) i e) :
    (∃ e, FirstOffence destination table allowUnmatched (before ++ names) e ∧
      addInputs destination table allowUnmatched (mappingSoFar destination before) before.length
        names = .error e) ∨
    ((∀ i e, ¬ Offends destination table allowUnmatched (before ++ names) i e) ∧
      addInputs destination table allowUnmatched (mappingSoFar destination before) before.length
        names = .ok (mappingSoFar destination (before ++ names))) := by
  induction names generalizing before with
  | nil =>
    -- all columns stand before the end, so none of them offends
    rw [List.append_nil] at hbefore ⊢
    refine .inr ⟨fun i e hoffends => ?_, rfl⟩
    obtain ⟨hi, -⟩ := List.getElem?_eq_some_iff.mp hoffends.choose_spec.1
    exact hbefore i hi e hoffends
  | cons name rest ih =>
    rcases addInput_cases destination table allowUnmatched before name with
      ⟨e, hfault, hadd⟩ | ⟨hfree, hadd⟩
    · refine .inl ⟨e, ⟨before.length, offends_iff.mpr hfault, hbefore⟩, ?_⟩
      rw [addInputs, hadd]
    · have hnext : ∀ i < (before ++ [name]).length, ∀ e,
          ¬ Offends destination table allowUnmatched ((before ++ [name]) ++ rest) i e := by
        intro i hi e
        rw [List.append_assoc, List.singleton_append]
        rw [List.length_append, List.length_singleton] at hi
        rcases Nat.lt_succ_iff_lt_or_eq.mp hi with hlt | rfl
        · exact hbefore i hlt e
        · exact fun hoffends => hfree e (offends_iff.mp hoffends)
      have hrest := ih (before ++ [name]) hnext
      rw [List.append_assoc, List.singleton_append, List.length_append,
        List.length_singleton] at hrest
      rw [addInputs, hadd]
      exact hrest

variable {destination table allowUnmatched}

/-! ## The mapping as a whole -/

/-- The mapping of an input, all columns of which can be mapped. -/
def mappingOf (destination input : List String) : ColumnMapping :=
  { mappingSoFar destination input with
    unmatchedDestination := ((List.range destination.length).filter fun i =>
      !(mappedPairs destination input).any fun pair => pair.2 = i).filterMap fun i =>
        destination[i]? }

/-- A mapping fails with the first column that offends, or is that of all columns. -/
theorem mapColumns_cases (destination : List String) (table : String) (allowUnmatched : Bool)
    (input : List String) :
    (∃ e, FirstOffence destination table allowUnmatched input e ∧
      mapColumns input destination table allowUnmatched = .error e) ∨
    ((∀ i e, ¬ Offends destination table allowUnmatched input i e) ∧
      mapColumns input destination table allowUnmatched = .ok (mappingOf destination input)) := by
  rcases addInputs_cases destination table allowUnmatched [] input (by simp) with
    ⟨e, hfirst, hadd⟩ | ⟨hfree, hadd⟩
  · refine .inl ⟨e, hfirst, ?_⟩
    rw [mapColumns]
    exact congrArg (Except.map _) hadd
  · refine .inr ⟨hfree, ?_⟩
    rw [mapColumns]
    exact congrArg (Except.map _) hadd

theorem mapColumns_eq_ok_iff {input : List String} {m : ColumnMapping} :
    mapColumns input destination table allowUnmatched = .ok m ↔
      (∀ i e, ¬ Offends destination table allowUnmatched input i e) ∧
        mappingOf destination input = m := by
  rcases mapColumns_cases destination table allowUnmatched input with
    ⟨e, ⟨i, hi, -⟩, hmap⟩ | ⟨hfree, hmap⟩
  · rw [hmap]
    exact iff_of_false (fun h => nomatch h) fun h => h.1 i e hi
  · rw [hmap, Except.ok.injEq, and_iff_right hfree]

/-- **All columns can be mapped** if none is ambiguous, no two resolve to the same place, and none
is unmatched unless that is allowed. -/
theorem forall_not_offends_iff {input : List String} :
    (∀ i e, ¬ Offends destination table allowUnmatched input i e) ↔
      (∀ name ∈ input, ¬ ResolvesTo destination name .ambiguous) ∧
      (∀ (i j : Nat) (a b : String) (d : Nat), input[i]? = some a → input[j]? = some b →
        ResolvesTo destination a (.column d) → ResolvesTo destination b (.column d) → i = j) ∧
      (allowUnmatched = true ∨ ∀ name ∈ input, ¬ ResolvesTo destination name .unmatched) := by
  constructor
  · intro h
    -- of two names for one column, the later one offends
    have hapart : ∀ (i j : Nat) (a b : String) (d : Nat), input[i]? = some a →
        input[j]? = some b → i < j → ResolvesTo destination a (.column d) →
        ¬ ResolvesTo destination b (.column d) := by
      intro i j a b d ha hb hij hda hdb
      obtain ⟨column, hcolumn, -⟩ := hda.exists_like
      have hbefore : a ∈ input.take j :=
        List.mem_of_getElem? ((List.getElem?_take_of_lt hij).trans ha)
      exact h j _ ⟨b, hb, .taken hdb hcolumn hbefore hda⟩
    refine ⟨fun name hname hambiguous => ?_, fun i j a b d ha hb hda hdb => ?_, ?_⟩
    · obtain ⟨i, hi⟩ := List.getElem?_of_mem hname
      exact h i _ ⟨name, hi, .ambiguous hambiguous⟩
    · rcases Nat.lt_trichotomy i j with hij | hij | hij
      · exact absurd hdb (hapart i j a b d ha hb hij hda)
      · exact hij
      · exact absurd hda (hapart j i b a d hb ha hij hdb)
    · cases hallow : allowUnmatched with
      | true => exact .inl rfl
      | false =>
        refine .inr fun name hname hunmatched => ?_
        obtain ⟨i, hi⟩ := List.getElem?_of_mem hname
        exact h i _ ⟨name, hi, .unmatched hunmatched hallow⟩
  · rintro ⟨hambiguous, hapart, hunmatched⟩ i e ⟨name, hname, hfault⟩
    have hmem := List.mem_of_getElem? hname
    cases hfault with
    | ambiguous h => exact hambiguous name hmem h
    | unmatched h hstrict =>
      rcases hunmatched with hallow | hnone
      · exact Bool.noConfusion (hstrict.symm.trans hallow)
      · exact hnone name hmem h
    | @taken d column other h hcolumn hother htaken =>
      obtain ⟨j, hj⟩ := List.getElem?_of_mem hother
      rw [List.getElem?_take] at hj
      split at hj
      · next hji => exact absurd (hapart j i other name d hj hname htaken h) (Nat.ne_of_lt hji)
      · nomatch hj

/-- **The mapping of an input** pairs the columns that resolve to one with it, in the order of the
input, and lists what is left over on both sides. -/
structure IsMappingOf (destination input : List String) (m : ColumnMapping) : Prop where
  mem_pairs : ∀ i d, (i, d) ∈ m.pairs ↔
    ∃ name, input[i]? = some name ∧ ResolvesTo destination name (.column d)
  increasing : m.pairs.Pairwise fun p q => p.1 < q.1
  apart : (m.pairs.map Prod.snd).Nodup
  unmatchedInput : m.unmatchedInput = input.filter fun name =>
    destination.all fun d => !sameName d name
  unmatchedDestination : m.unmatchedDestination =
    (destination.zipIdx.filter fun column => column.2 ∉ m.pairs.map Prod.snd).map Prod.fst

theorem isMappingOf_mappingOf {input : List String}
    (h : ∀ i e, ¬ Offends destination table allowUnmatched input i e) :
    IsMappingOf destination input (mappingOf destination input) where
  mem_pairs _ _ := mem_mappedPairs
  increasing := mappedPairs_increasing input
  apart := by
    have happart := (forall_not_offends_iff.mp h).2.1
    rw [List.Nodup, List.pairwise_map]
    refine (mappedPairs_increasing input).imp_of_mem fun {p q} hp hq hpq heq => ?_
    obtain ⟨a, ha, hda⟩ := mem_mappedPairs.mp hp
    obtain ⟨b, hb, hdb⟩ := mem_mappedPairs.mp hq
    exact absurd (happart _ _ a b _ ha hb hda (heq ▸ hdb)) (Nat.ne_of_lt hpq)
  unmatchedInput := by
    refine List.filter_congr fun name _ => ?_
    rw [Bool.eq_iff_iff, decide_eq_true_eq, ← resolvesTo_iff, resolvesTo_unmatched_iff]
    simp
  unmatchedDestination := by
    refine (filterMap_range_filter destination _).trans (congrArg (List.map Prod.fst) ?_)
    refine List.filter_congr fun column _ => ?_
    rw [Bool.eq_iff_iff, decide_eq_true_eq, Bool.not_eq_true', ← Bool.not_eq_true]
    simp [mappingOf, mappingSoFar]

/-- **Column mapping follows the rule.**  It succeeds if no column of the input is ambiguous, no two
resolve to the same column of the destination, and none is unmatched unless that is allowed; then
the columns that resolve to one are paired with it.  Otherwise the first column of the input that
cannot be mapped decides the error. -/
theorem mapColumns_follows_rule (input destination : List String) (table : String)
    (allowUnmatched : Bool) :
    ((∃ m, mapColumns input destination table allowUnmatched = .ok m) ↔
      (∀ name ∈ input, ¬ ResolvesTo destination name .ambiguous) ∧
      (∀ (i j : Nat) (a b : String) (d : Nat), input[i]? = some a → input[j]? = some b →
        ResolvesTo destination a (.column d) → ResolvesTo destination b (.column d) → i = j) ∧
      (allowUnmatched = true ∨ ∀ name ∈ input, ¬ ResolvesTo destination name .unmatched)) ∧
    (∀ m, mapColumns input destination table allowUnmatched = .ok m →
      IsMappingOf destination input m) ∧
    ∀ e, mapColumns input destination table allowUnmatched = .error e →
      FirstOffence destination table allowUnmatched input e := by
  have hfree_iff : (∀ i e, ¬ Offends destination table allowUnmatched input i e) ↔ _ :=
    forall_not_offends_iff
  rw [← hfree_iff]
  rcases mapColumns_cases destination table allowUnmatched input with
    ⟨e, hfirst, hmap⟩ | ⟨hfree, hmap⟩
  · rw [hmap]
    refine ⟨iff_of_false (fun ⟨_, h⟩ => nomatch h) fun hfree => ?_, fun _ h => (nomatch h), ?_⟩
    · obtain ⟨i, hi, -⟩ := hfirst
      exact hfree i e hi
    · rintro _ ⟨⟩
      exact hfirst
  · rw [hmap]
    refine ⟨iff_of_true ⟨_, rfl⟩ hfree, ?_, fun _ h => nomatch h⟩
    rintro _ ⟨⟩
    exact isMappingOf_mappingOf hfree

end Rule

end SqlDialects
