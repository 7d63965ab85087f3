import SqlDialects.Keyword
import SqlDialects.Proofs.List

/-!
# What a registry of keywords holds

A registry is asked to add settings, by any number of clients and in any order.  Each call has the
registry for itself, so whatever the clients do, the calls that were carried out are one sequence,
and all that can be said about the registry is said about the sequence (`KeywordRegistry.addAll`).

* `KeywordSet.Reflects` — what a set tells of the additions that have made it: one setting for each
  name, in the order of the first additions, with the highest priority that was ever given and the
  first value that came with it.  One addition keeps it (`KeywordSet.reflects_add`), so all do.
* `KeywordSet.takesEffect_iff` — the answer of an addition says whether it has changed the set.
* `KeywordSet.Grows` — settings stay where they are, and their priorities do not fall.
* `KeywordSet.merge_merge`, `KeywordSet.reflects_merge` — a second merge changes nothing, and what
  has been merged reflects the additions of both sides.
* `KeywordRegistry.addAll_reflects` — all of it for a registry.
-/

set_option autoImplicit false

namespace SqlDialects

open Text

/-! ## One addition -/

theorem sameName_congr {a b : String} (h : sameName a b = true) (c : String) :
    sameName a c = sameName b c := by
  rw [Bool.eq_iff_iff]
  exact ⟨sameName_trans (sameName_comm a b ▸ h), sameName_trans h⟩

/-- What becomes of a setting when another one of its name is added. -/
def Keyword.giveWay (old k : Keyword) : Keyword :=
  if old.priority.rank < k.priority.rank then
    { old with value := k.value, priority := k.priority }
  else old

@[simp]
theorem Keyword.giveWay_name (old k : Keyword) : (old.giveWay k).name = old.name := by
  rw [giveWay]
  split <;> rfl

theorem Keyword.rank_giveWay (old k : Keyword) :
    (old.giveWay k).priority.rank = max old.priority.rank k.priority.rank := by
  rw [giveWay]
  split
  · next h => exact (Nat.max_eq_right (Nat.le_of_lt h)).symm
  · next h => exact (Nat.max_eq_left (Nat.not_lt.mp h)).symm

namespace KeywordSet

theorem get?_cons (name : String) (old : Keyword) (rest : KeywordSet) :
    get? name (old :: rest) = if sameName old.name name then some old else get? name rest := by
  rw [get?, List.find?_cons]
  split <;> simp_all [get?]

theorem add_cons (k old : Keyword) (rest : KeywordSet) :
    add k (old :: rest) =
      if sameName old.name k.name then old.giveWay k :: rest else old :: add k rest := by
  rw [add, Keyword.giveWay]
  split
  · split <;> rfl
  · rfl

/-- **What is found after an addition.** -/
theorem get?_add (name : String) (k : Keyword) (set : KeywordSet) :
    get? name (add k set) =
      if sameName k.name name then
        some (match get? name set with
          | some old => old.giveWay k
          | none => k)
      else get? name set := by
  induction set with
  | nil => rw [add, get?_cons]; rfl
  | cons old rest ih =>
    rw [add_cons, get?_cons]
    by_cases hk : sameName old.name k.name = true
    · rw [if_pos hk, get?_cons, Keyword.giveWay_name, sameName_congr hk]
      split <;> rfl
    · rw [if_neg hk, get?_cons, ih]
      split
      · next hold =>
        rw [if_neg fun h => hk (sameName_trans hold (sameName_comm _ _ ▸ h))]
      · rfl

/-- An addition takes effect unless its name is there with a priority that is as high. -/
theorem takesEffect_eq_false_iff {k : Keyword} {set : KeywordSet} :
    takesEffect k set = false ↔
      ∃ old, get? k.name set = some old ∧ k.priority.rank ≤ old.priority.rank := by
  rw [takesEffect]
  cases get? k.name set with
  | none => simp
  | some old => simp

/-- An addition without effect leaves the set as it is. -/
theorem add_eq_self {k : Keyword} {set : KeywordSet} (h : takesEffect k set = false) :
    add k set = set := by
  induction set with
  | nil => contradiction
  | cons old rest ih =>
    obtain ⟨found, hfound, hrank⟩ := takesEffect_eq_false_iff.mp h
    rw [get?_cons] at hfound
    rw [add_cons]
    split at hfound
    · next hk =>
      obtain rfl := Option.some.inj hfound
      rw [if_pos hk, Keyword.giveWay, if_neg (Nat.not_lt.mpr hrank)]
    · next hk =>
      rw [if_neg hk, ih (takesEffect_eq_false_iff.mpr ⟨found, hfound, hrank⟩)]

/-- **The answer of an addition** says whether it has changed the set. -/
theorem takesEffect_iff {k : Keyword} {set : KeywordSet} :
    takesEffect k set = true ↔ add k set ≠ set := by
  constructor
  · intro h heq
    have hget := get?_add k.name k set
    rw [heq, if_pos (sameName_refl _)] at hget
    rw [takesEffect, hget] at h
    cases hold : get? k.name set with
    | none => rw [hold] at hget; contradiction
    | some old =>
      rw [hold] at h
      have hrank := old.rank_giveWay k
      simp only [decide_eq_true_eq] at h
      omega
  · intro h
    rw [← Bool.not_eq_false]
    exact fun hfalse => h (add_eq_self hfalse)

/-- What has been added need not be added again. -/
theorem takesEffect_add_self (k : Keyword) (set : KeywordSet) :
    takesEffect k (add k set) = false := by
  rw [takesEffect_eq_false_iff, get?_add, if_pos (sameName_refl _)]
  refine ⟨_, rfl, ?_⟩
  cases get? k.name set with
  | none => exact Nat.le_refl _
  | some old => simp only [Keyword.rank_giveWay]; exact Nat.le_max_right _ _

/-- What would have no effect has none later either. -/
theorem takesEffect_add_of_eq_false {k : Keyword} {set : KeywordSet}
    (h : takesEffect k set = false) (other : Keyword) : takesEffect k (add other set) = false := by
  obtain ⟨old, hold, hrank⟩ := takesEffect_eq_false_iff.mp h
  rw [takesEffect_eq_false_iff, get?_add, hold]
  split
  · exact ⟨_, rfl, by rw [Keyword.rank_giveWay]; omega⟩
  · exact ⟨old, rfl, hrank⟩

/-- The names after an addition. -/
theorem names_add (k : Keyword) (set : KeywordSet) :
    (add k set).map Keyword.name =
      if (set.map Keyword.name).any (sameName k.name) then set.map Keyword.name
      else set.map Keyword.name ++ [k.name] := by
  induction set with
  | nil => rfl
  | cons old rest ih =>
    rw [add_cons, List.map_cons, List.any_cons, sameName_comm k.name]
    split
    · next hk => simp [hk]
    · next hk =>
      rw [List.map_cons, ih, Bool.eq_false_iff.mpr hk, Bool.false_or]
      split <;> rfl

/-! ## Sets that grow -/

/-- Every setting is still at its place, spelled as before and with no lower priority. -/
def Grows (set later : KeywordSet) : Prop :=
  ∀ (i : Nat) (old : Keyword), set[i]? = some old →
    ∃ new, later[i]? = some new ∧ new.name = old.name ∧ old.priority.rank ≤ new.priority.rank

theorem Grows.refl (set : KeywordSet) : set.Grows set :=
  fun _ old h => ⟨old, h, rfl, Nat.le_refl _⟩

theorem Grows.trans {set later latest : KeywordSet} (h : set.Grows later)
    (h' : later.Grows latest) : set.Grows latest := by
  intro i old hold
  obtain ⟨new, hnew, hname, hrank⟩ := h i old hold
  obtain ⟨newest, hnewest, hname', hrank'⟩ := h' i new hnew
  exact ⟨newest, hnewest, hname'.trans hname, Nat.le_trans hrank hrank'⟩

theorem grows_add (k : Keyword) (set : KeywordSet) : set.Grows (add k set) := by
  induction set with
  | nil => intro i old h; simp at h
  | cons first rest ih =>
    rw [add_cons]
    intro i old h
    cases i with
    | zero =>
      obtain rfl := Option.some.inj h
      split
      · exact ⟨_, rfl, by simp, by rw [Keyword.rank_giveWay]; exact Nat.le_max_left _ _⟩
      · exact ⟨_, rfl, rfl, Nat.le_refl _⟩
    | succ i =>
      split
      · exact Grows.refl rest i old h
      · exact ih i old h

end KeywordSet

/-! ## What a set tells of the additions -/

theorem KeywordPriority.eq_of_rank_eq {p p' : KeywordPriority} (h : p.rank = p'.rank) :
    p = p' := by
  cases p <;> cases p' <;> first | rfl | contradiction

/-- A setting is what the additions of its name come to. -/
structure Keyword.Prevails (k : Keyword) (added : List Keyword) : Prop where
  /-- Its priority is the highest one that was given. -/
  highest : ∀ a ∈ added, sameName a.name k.name = true → a.priority.rank ≤ k.priority.rank
  /-- Its value came with the first addition of this priority. -/
  first : ∃ a, added.find? (fun a => sameName a.name k.name && a.priority == k.priority) = some a ∧
    a.value = k.value

namespace Keyword

variable {k new : Keyword} {added : List Keyword}

theorem Prevails.concat_of_ne (h : k.Prevails added) (hne : sameName k.name new.name = false) :
    k.Prevails (added ++ [new]) := by
  obtain ⟨a, ha, hvalue⟩ := h.first
  refine ⟨fun b hb hsame => ?_, a, by rw [List.find?_append, ha, Option.some_or], hvalue⟩
  rcases List.mem_append.mp hb with hb | hb
  · exact h.highest b hb hsame
  · rw [List.mem_singleton.mp hb, sameName_comm, hne] at hsame
    contradiction

/-- A name that is new prevails. -/
theorem prevails_concat (h : ∀ a ∈ added, sameName a.name new.name = false) :
    new.Prevails (added ++ [new]) := by
  refine ⟨fun a ha hsame => ?_, new, ?_, rfl⟩
  · rcases List.mem_append.mp ha with ha | ha
    · rw [h a ha] at hsame
      contradiction
    · exact List.mem_singleton.mp ha ▸ Nat.le_refl _
  · rw [List.find?_append, List.find?_eq_none.mpr fun a ha => by simp [h a ha], Option.none_or]
    simp [sameName_refl]

/-- A setting that gives way, or does not, is what the additions come to. -/
theorem Prevails.giveWay (h : k.Prevails added) (hsame : sameName k.name new.name = true) :
    (k.giveWay new).Prevails (added ++ [new]) := by
  have hnew : sameName new.name k.name = true := sameName_comm _ _ ▸ hsame
  refine ⟨fun a ha ha' => ?_, ?_⟩
  · rw [giveWay_name] at ha'
    rw [rank_giveWay]
    rcases List.mem_append.mp ha with ha | ha
    · exact Nat.le_trans (h.highest a ha ha') (Nat.le_max_left _ _)
    · exact List.mem_singleton.mp ha ▸ Nat.le_max_right _ _
  · obtain ⟨a, ha, hvalue⟩ := h.first
    rw [Keyword.giveWay]
    split
    · next hlt =>
      -- the priority of the new one has not been given before
      refine ⟨new, ?_, rfl⟩
      rw [List.find?_append, List.find?_eq_none.mpr fun b hb hb' => ?_, Option.none_or]
      · simp [hnew]
      · simp only [Bool.and_eq_true, beq_iff_eq] at hb'
        have hle := h.highest b hb hb'.1
        rw [hb'.2] at hle
        exact Nat.not_lt.mpr hle hlt
    · exact ⟨a, by rw [List.find?_append, ha, Option.some_or], hvalue⟩

end Keyword

namespace KeywordSet

/-- What a set tells of the additions that have made it. -/
structure Reflects (set : KeywordSet) (added : List Keyword) : Prop where
  /-- There is one setting for each name, whatever its case, in the order of the first additions and
  spelled as in them. -/
  names : set.map Keyword.name = (added.map Keyword.name).eraseDupsBy sameName
  /-- Each of them is what the additions of its name come to. -/
  prevails : ∀ k ∈ set, k.Prevails added

variable {set other : KeywordSet} {added more : List Keyword} {k : Keyword}

/-- No name is there twice. -/
theorem Reflects.pairwise (h : set.Reflects added) :
    set.Pairwise fun a b => sameName a.name b.name = false := by
  have hnames := pairwise_eraseDupsBy (r := sameName) (added.map Keyword.name)
  rw [← h.names, List.pairwise_map] at hnames
  exact hnames.imp fun hab => sameName_comm _ _ ▸ hab

/-- Every name that was added is there. -/
theorem Reflects.exists_mem (h : set.Reflects added) {a : Keyword} (ha : a ∈ added) :
    ∃ k ∈ set, sameName a.name k.name = true := by
  have hname := exists_mem_eraseDupsBy sameName_refl (List.mem_map_of_mem (f := Keyword.name) ha)
  rw [← h.names] at hname
  simpa using hname

/-- The members of a set after an addition. -/
theorem mem_add_cases (hset : set.Pairwise fun a b => sameName a.name b.name = false)
    {found : Keyword} (h : found ∈ add k set) :
    (found ∈ set ∧ sameName found.name k.name = false) ∨
      (∃ old ∈ set, sameName old.name k.name = true ∧ found = old.giveWay k) ∨
      (found = k ∧ ∀ old ∈ set, sameName old.name k.name = false) := by
  induction set with
  | nil => exact .inr (.inr ⟨List.mem_singleton.mp h, by simp⟩)
  | cons first rest ih =>
    obtain ⟨hfirst, hrest⟩ := List.pairwise_cons.mp hset
    rw [add_cons] at h
    split at h
    · next hk =>
      rcases List.mem_cons.mp h with rfl | h
      · exact .inr (.inl ⟨first, List.mem_cons_self, hk, rfl⟩)
      · refine .inl ⟨List.mem_cons_of_mem _ h, Bool.eq_false_iff.mpr fun hsame => ?_⟩
        -- a second setting of the name would be one of the first setting's name
        have := hfirst found h
        rw [sameName_trans hk (sameName_comm _ _ ▸ hsame)] at this
        contradiction
    · next hk =>
      have hk := Bool.eq_false_iff.mpr hk
      rcases List.mem_cons.mp h with rfl | h
      · exact .inl ⟨List.mem_cons_self, hk⟩
      · rcases ih hrest h with ⟨hmem, hne⟩ | ⟨old, hold, hsame, heq⟩ | ⟨heq, hne⟩
        · exact .inl ⟨List.mem_cons_of_mem _ hmem, hne⟩
        · exact .inr (.inl ⟨old, List.mem_cons_of_mem _ hold, hsame, heq⟩)
        · exact .inr (.inr ⟨heq, List.forall_mem_cons.mpr ⟨hk, hne⟩⟩)

/-- **One addition** is told by the set like those before it. -/
theorem reflects_add (h : set.Reflects added) (k : Keyword) :
    (add k set).Reflects (added ++ [k]) := by
  refine ⟨?_, fun found hfound => ?_⟩
  · rw [names_add, h.names, List.map_append, List.map_singleton, eraseDupsBy_concat]
  · rcases mem_add_cases h.pairwise hfound with ⟨hmem, hne⟩ | ⟨old, hold, hsame, rfl⟩ | ⟨rfl, hne⟩
    · exact (h.prevails found hmem).concat_of_ne hne
    · exact (h.prevails old hold).giveWay hsame
    · refine Keyword.prevails_concat fun a ha => Bool.eq_false_iff.mpr fun hsame => ?_
      obtain ⟨old, hold, hsame'⟩ := h.exists_mem ha
      have := hne old hold
      rw [sameName_trans (sameName_comm _ _ ▸ hsame') hsame] at this
      contradiction

/-! ## Many additions -/

/-- What would have no effect has none after other additions. -/
theorem takesEffect_merge_of_eq_false (h : takesEffect k set = false) (added : List Keyword) :
    takesEffect k (merge set added) = false := by
  induction added generalizing set with
  | nil => exact h
  | cons first added ih => exact ih (takesEffect_add_of_eq_false h first)

/-- All that has been added need not be added again. -/
theorem takesEffect_merge_of_mem (hk : k ∈ added) : takesEffect k (merge set added) = false := by
  induction added generalizing set with
  | nil => contradiction
  | cons first added ih =>
    rcases List.mem_cons.mp hk with rfl | hk
    · exact takesEffect_merge_of_eq_false (takesEffect_add_self k set) added
    · exact ih hk

theorem merge_eq_self (h : ∀ k ∈ added, takesEffect k set = false) : merge set added = set := by
  induction added with
  | nil => rfl
  | cons first added ih =>
    rw [List.forall_mem_cons] at h
    rw [merge, List.foldl_cons, add_eq_self h.1]
    exact ih h.2

/-- **A second merge** changes nothing. -/
theorem merge_merge (set other : KeywordSet) :
    (set.merge other).merge other = set.merge other :=
  merge_eq_self fun _ hk => takesEffect_merge_of_mem hk

theorem grows_merge (set : KeywordSet) (added : List Keyword) : set.Grows (merge set added) := by
  induction added generalizing set with
  | nil => exact Grows.refl set
  | cons first added ih => exact (grows_add first set).trans (ih _)

/-- **All additions** are told by the set. -/
theorem Reflects.merge_additions (h : set.Reflects added) (more : List Keyword) :
    (merge set more).Reflects (added ++ more) := by
  induction more generalizing set added with
  | nil => rwa [List.append_nil]
  | cons first more ih => exact List.append_cons added first more ▸ ih (reflects_add h first)

/-- A set that is made from nothing tells of what was added. -/
theorem reflects_merge_nil (added : List Keyword) : (merge [] added).Reflects added := by
  have hnil : Reflects [] [] := ⟨rfl, by simp⟩
  exact hnil.merge_additions added

example :
    merge [] [⟨"Pooling", "v0", .systemDefaultLow⟩, ⟨"pooling", "v1", .objectOverride⟩,
      ⟨"POOLING", "v2", .objectOverride⟩] = [⟨"Pooling", "v1", .objectOverride⟩] := by decide

/-- What prevails among the settings of a set prevails among the additions that have made it. -/
theorem Reflects.prevails_append (h : other.Reflects more)
    (hk : k.Prevails (added ++ other)) : k.Prevails (added ++ more) := by
  refine ⟨fun a ha hsame => ?_, ?_⟩
  · rcases List.mem_append.mp ha with ha | ha
    · exact hk.highest a (List.mem_append_left _ ha) hsame
    · obtain ⟨found, hfound, hsame'⟩ := h.exists_mem ha
      have hname : sameName found.name k.name = true :=
        sameName_trans (sameName_comm _ _ ▸ hsame') hsame
      exact Nat.le_trans ((h.prevails found hfound).highest a ha hsame')
        (hk.highest found (List.mem_append_right _ hfound) hname)
  · obtain ⟨a, ha, hvalue⟩ := hk.first
    rw [List.find?_append, Option.or_eq_some_iff] at ha
    rcases ha with ha | ⟨hnone, ha⟩
    · exact ⟨a, by rw [List.find?_append, ha, Option.some_or], hvalue⟩
    · obtain ⟨b, hb, hvalue'⟩ := (h.prevails a (List.mem_of_find?_eq_some ha)).first
      have hlike := List.find?_some ha
      simp only [Bool.and_eq_true, beq_iff_eq] at hlike
      refine ⟨b, ?_, hvalue'.trans hvalue⟩
      rw [List.find?_append, hnone, Option.none_or, ← hb, hlike.2]
      simp only [sameName_comm _ a.name, sameName_comm _ k.name, sameName_congr hlike.1]

/-- What is merged into a set tells of both sequences of additions. -/
theorem Reflects.merge (h : set.Reflects added) (h' : other.Reflects more) :
    (set.merge other).Reflects (added ++ more) := by
  obtain ⟨hnames, hprevails⟩ := h.merge_additions other
  refine ⟨?_, fun k hk => h'.prevails_append (hprevails k hk)⟩
  rw [hnames, List.map_append, h'.names, List.map_append,
    eraseDupsBy_append_eraseDupsBy sameName_refl fun _ _ _ => sameName_trans]

/-- Settings of one name that prevail among the same additions are the same. -/
theorem eq_of_prevails {a b : Keyword} (ha : a.Prevails added) (hb : b.Prevails added)
    (hname : a.name = b.name) : a = b := by
  have hle {a b : Keyword} (ha : a.Prevails added) (hb : b.Prevails added)
      (hname : a.name = b.name) : a.priority.rank ≤ b.priority.rank := by
    obtain ⟨x, hx, -⟩ := ha.first
    have hlike := List.find?_some hx
    simp only [Bool.and_eq_true, beq_iff_eq] at hlike
    exact hlike.2 ▸ hb.highest x (List.mem_of_find?_eq_some hx) (hname ▸ hlike.1)
  have hpriority : a.priority = b.priority :=
    KeywordPriority.eq_of_rank_eq (Nat.le_antisymm (hle ha hb hname) (hle hb ha hname.symm))
  obtain ⟨x, hx, hvalue⟩ := ha.first
  obtain ⟨y, hy, hvalue'⟩ := hb.first
  rw [hname, hpriority, hy, Option.some.injEq] at hx
  rw [Keyword.mk.injEq]
  exact ⟨hname, by rw [← hvalue, ← hvalue', hx], hpriority⟩

/-- Additions are told in one way only. -/
theorem Reflects.eq (h : set.Reflects added) (h' : other.Reflects added) : set = other := by
  refine List.ext_getElem? fun i => ?_
  have hnames : (set.map Keyword.name)[i]? = (other.map Keyword.name)[i]? := by
    rw [h.names, h'.names]
  rw [List.getElem?_map, List.getElem?_map] at hnames
  cases ha : set[i]? with
  | none =>
    rw [ha] at hnames
    exact (Option.map_eq_none_iff.mp hnames.symm).symm
  | some a =>
    rw [ha] at hnames
    obtain ⟨b, hb, hname⟩ := Option.map_eq_some_iff.mp hnames.symm
    rw [hb, eq_of_prevails (h.prevails a (List.mem_of_getElem? ha))
      (h'.prevails b (List.mem_of_getElem? hb)) hname.symm]

end KeywordSet

/-! ## Registries -/

namespace KeywordRegistry

/-- The registry after a sequence of calls. -/
def addAll (registry : KeywordRegistry) (calls : List (Dialect × Keyword)) : KeywordRegistry :=
  calls.foldl (fun registry call => registry.add call.1 call.2) registry

/-- What a sequence of calls adds for a dialect. -/
def additions (dialect : Dialect) (calls : List (Dialect × Keyword)) : List Keyword :=
  (calls.filter fun call => call.1 = dialect).map Prod.snd

@[simp]
theorem keywords_add_self (registry : KeywordRegistry) (dialect : Dialect) (k : Keyword) :
    (registry.add dialect k).keywords dialect = (registry.keywords dialect).add k := by
  simp only [add, if_true]

theorem keywords_add_of_ne (registry : KeywordRegistry) {dialect other : Dialect}
    (h : other ≠ dialect) (k : Keyword) :
    (registry.add dialect k).keywords other = registry.keywords other := by
  simp only [add, if_neg h]

theorem addAll_concat (registry : KeywordRegistry) (calls : List (Dialect × Keyword))
    (dialect : Dialect) (k : Keyword) :
    registry.addAll (calls ++ [(dialect, k)]) = (registry.addAll calls).add dialect k := by
  rw [addAll, List.foldl_append]
  rfl

theorem addAll_append (registry : KeywordRegistry) (calls more : List (Dialect × Keyword)) :
    registry.addAll (calls ++ more) = (registry.addAll calls).addAll more := List.foldl_append

/-- **A dialect** takes its own additions, one after the other, and no others. -/
theorem keywords_addAll (registry : KeywordRegistry) (calls : List (Dialect × Keyword))
    (dialect : Dialect) :
    (registry.addAll calls).keywords dialect =
      (registry.keywords dialect).merge (additions dialect calls) := by
  induction calls generalizing registry with
  | nil => rfl
  | cons call calls ih =>
    obtain ⟨other, k⟩ := call
    refine (ih (registry.add other k)).trans ?_
    by_cases h : other = dialect
    · subst h
      rw [keywords_add_self, additions, additions, List.filter_cons_of_pos (by simp)]
      rfl
    · rw [keywords_add_of_ne registry (Ne.symm h), additions, additions,
        List.filter_cons_of_neg (by simp [h])]

/-- **The registry as a whole**, after any sequence of calls.  The set of each dialect tells of the
additions for this dialect.  A further call answers whether it changes the set of its dialect, and
it leaves the other dialects as they are.  In the course of further calls no setting is lost and no
priority falls.  As to merging, it is adding the settings one by one; it comes to the same as all
the additions that have made the two sets, in turn; and the second time it changes nothing. -/
theorem addAll_reflects (calls more : List (Dialect × Keyword)) (dialect : Dialect) (k : Keyword) :
    ((addAll {} calls).keywords dialect).Reflects (additions dialect calls) ∧
    ((addAll {} calls).takesEffect dialect k = true ↔
      (addAll {} (calls ++ [(dialect, k)])).keywords dialect ≠
        (addAll {} calls).keywords dialect) ∧
    (∀ other, other ≠ dialect →
      (addAll {} (calls ++ [(dialect, k)])).keywords other = (addAll {} calls).keywords other) ∧
    ((addAll {} calls).keywords dialect).Grows ((addAll {} (calls ++ more)).keywords dialect) ∧
    (∀ set other : KeywordSet,
      set.merge other = other.foldl (fun set k => set.add k) set ∧
      (set.merge other).merge other = set.merge other) ∧
    ∀ first second : List Keyword,
      KeywordSet.merge (KeywordSet.merge [] first) (KeywordSet.merge [] second) =
        KeywordSet.merge [] (first ++ second) := by
  refine ⟨?_, ?_, fun other hother => ?_, ?_, fun set other => ⟨rfl, set.merge_merge other⟩,
    fun first second => ?_⟩
  · rw [keywords_addAll]
    exact KeywordSet.reflects_merge_nil _
  · rw [addAll_concat, keywords_add_self]
    exact KeywordSet.takesEffect_iff
  · rw [addAll_concat, keywords_add_of_ne _ hother]
  · rw [addAll_append, keywords_addAll _ more]
    exact KeywordSet.grows_merge _ _
  · exact ((KeywordSet.reflects_merge_nil first).merge (KeywordSet.reflects_merge_nil second)).eq
      (KeywordSet.reflects_merge_nil (first ++ second))

end KeywordRegistry

end SqlDialects
