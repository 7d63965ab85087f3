import Mathlib.Order.Bounds.Defs
import SqlDialects.Dialect.Parameter
import SqlDialects.Proofs.ColumnMapping
import SqlDialects.Proofs.Identifier
import SqlDialects.Proofs.List

/-!
# Parameters of their own

Columns of one statement have parameters of different names, so every value that is handed over is
bound to its own column.  A name that is in use is made longer until it is not.  Every name on the
way that turns out to be in use is passed for good, so `makeUnused` finds one after no more steps
than there are names in use.

* `lower_makeUnused_not_mem` — the name that is found is not in use.
* `NamedInTurn` — each column in turn asks for a name and gets it with the least number of
  underscores that sets it apart.  This says of the loop that it ends, and where.
* `parametersFor_distinct` — the parameters of a list of columns differ by more than case.
-/

set_option autoImplicit false

namespace SqlDialects

open Text

/-! ## Names that are not in use -/

namespace QueryStyle

/-- The names in use that are at least as long as the given one. -/
def notShorter (used : List Chars) (name : Chars) : Nat :=
  used.countP fun u => decide (name.length ≤ u.length)

/-- A name that is in use counts no longer when it has grown. -/
theorem notShorter_append_lt {used : List Chars} {name : Chars} (h : lower name ∈ used) :
    notShorter used (name ++ ['_']) < notShorter used name := by
  refine countP_lt_countP_of_mem (fun u _ hu => ?_) h ?_ ?_
  · rw [decide_eq_true_eq, List.length_append] at hu
    exact decide_eq_true (Nat.le_of_succ_le hu)
  · simp [lower]
  · simp [lower]

/-- **The name that is found is not in use**, given the fuel. -/
theorem lower_makeUnused_not_mem {used : List Chars} {fuel : Nat} {name : Chars}
    (h : notShorter used name < fuel) : lower (makeUnused used fuel name) ∉ used := by
  induction fuel generalizing name with
  | zero => contradiction
  | succ fuel ih =>
    rw [makeUnused]
    split
    · next hused =>
      have hlt := notShorter_append_lt hused
      exact ih (by omega)
    · assumption

/-- No more than one more name than there are in use has to be looked at. -/
theorem lower_makeUnused_succ_not_mem (used : List Chars) (name : Chars) :
    lower (makeUnused used (used.length + 1) name) ∉ used :=
  lower_makeUnused_not_mem (Nat.lt_succ_of_le List.countP_le_length)

theorem lower_plainParameterName_not_mem (used : List Chars) (index : Nat) (column : String) :
    lower (plainParameterName used index column) ∉ used :=
  lower_makeUnused_succ_not_mem used _

/-! ## Names with underscores behind them -/

/-- The name with some underscores behind it. -/
def lengthened (name : Chars) (k : Nat) : Chars := name ++ List.replicate k '_'

theorem lengthened_succ (name : Chars) (k : Nat) :
    lengthened (name ++ ['_']) k = lengthened name (k + 1) := by
  rw [lengthened, lengthened, List.replicate_succ, List.append_assoc, List.singleton_append]

/-- Every name that is passed on the way is in use. -/
theorem exists_makeUnused_eq (used : List Chars) (fuel : Nat) (name : Chars) :
    ∃ k, makeUnused used fuel name = lengthened name k ∧
      ∀ j < k, lower (lengthened name j) ∈ used := by
  induction fuel generalizing name with
  | zero => exact ⟨0, (List.append_nil name).symm, fun j hj => absurd hj (Nat.not_lt_zero j)⟩
  | succ fuel ih =>
    rw [makeUnused]
    split
    · next hused =>
      obtain ⟨k, hk, hpassed⟩ := ih (name ++ ['_'])
      refine ⟨k + 1, hk.trans (lengthened_succ name k), fun j hj => ?_⟩
      cases j with
      | zero => rwa [lengthened, List.replicate_zero, List.append_nil]
      | succ j =>
        rw [← lengthened_succ]
        exact hpassed j (Nat.lt_of_succ_lt_succ hj)
    · exact ⟨0, (List.append_nil name).symm, fun j hj => absurd hj (Nat.not_lt_zero j)⟩

/-- **The loop ends with the least number of underscores** that sets the name apart from those in
use. -/
theorem exists_isLeast_makeUnused (used : List Chars) (name : Chars) :
    ∃ k, IsLeast {k | lower (lengthened name k) ∉ used} k ∧
      makeUnused used (used.length + 1) name = lengthened name k := by
  obtain ⟨k, hk, hpassed⟩ := exists_makeUnused_eq used (used.length + 1) name
  have hunused := lower_makeUnused_succ_not_mem used name
  refine ⟨k, ⟨?_, fun j hj => ?_⟩, hk⟩
  · show lower (lengthened name k) ∉ used
    rwa [← hk]
  · by_contra hlt
    exact hj (hpassed j (Nat.lt_of_not_le hlt))

/-! ## Names for a list of columns -/

/-- The name that a column asks for: its sensible name, or one made of its place if that is empty or
in use. -/
def requestedName (used : List Chars) (index : Nat) (column : String) : Chars :=
  if (sensibleName column.toList).isEmpty || used.contains (lower (sensibleName column.toList)) then
    'p' :: Nat.toDigits 10 index
  else sensibleName column.toList

/-- **Names for columns, taken in turn**: each column gets the name it asks for, with the least
number of underscores that sets it apart from the names in use. -/
inductive NamedInTurn : (used : List Chars) → (index : Nat) → List String → List Chars → Prop
  | nil (used : List Chars) (index : Nat) : NamedInTurn used index [] []
  | cons {used : List Chars} {index : Nat} {column : String} {columns : List String}
      {names : List Chars} {k : Nat}
      (hleast : IsLeast {k | lower (lengthened (requestedName used index column) k) ∉ used} k)
      (h : NamedInTurn (lower (lengthened (requestedName used index column) k) :: used) (index + 1)
        columns names) :
      NamedInTurn used index (column :: columns)
        (lengthened (requestedName used index column) k :: names)

theorem plainParameterName_eq (used : List Chars) (index : Nat) (column : String) :
    plainParameterName used index column =
      makeUnused used (used.length + 1) (requestedName used index column) := by
  simp [plainParameterName, requestedName]

/-- **The names that are found are those taken in turn.** -/
theorem plainParameterNames_namedInTurn (used : List Chars) (index : Nat) (columns : List String) :
    NamedInTurn used index columns (plainParameterNames used index columns) := by
  induction columns generalizing used index with
  | nil => exact .nil used index
  | cons column columns ih =>
    obtain ⟨k, hleast, hk⟩ :=
      exists_isLeast_makeUnused used (requestedName used index column)
    rw [plainParameterNames, plainParameterName_eq, hk]
    exact .cons hleast (ih _ _)

theorem requestedName_isIdentifier (used : List Chars) (index : Nat) (column : String) :
    IsIdentifier (requestedName used index column) := by
  rw [requestedName]
  split
  · refine ⟨.inl rfl, fun d hd => isPlain_iff.mpr (.inr ?_)⟩
    exact Nat.isDigit_of_mem_toDigits (by decide) (by decide) hd
  · next h =>
    rw [Bool.or_eq_true, not_or, List.isEmpty_iff] at h
    exact (sensibleName_eq_nil_or_isIdentifier column.toList).resolve_left h.1

/-- **All names are identifiers.** -/
theorem NamedInTurn.isIdentifier {used : List Chars} {index : Nat} {columns : List String}
    {names : List Chars} (h : NamedInTurn used index columns names) :
    ∀ name ∈ names, IsIdentifier name := by
  induction h with
  | nil used index => exact List.forall_mem_nil _
  | @cons used index column columns names k _ _ ih =>
    refine List.forall_mem_cons.mpr ⟨?_, ih⟩
    refine (requestedName_isIdentifier used index column).append fun c hc => ?_
    rw [List.eq_of_mem_replicate hc]
    rfl

theorem length_plainParameterNames (used : List Chars) (index : Nat) (columns : List String) :
    (plainParameterNames used index columns).length = columns.length := by
  induction columns generalizing used index with
  | nil => rfl
  | cons column columns ih => rw [plainParameterNames, List.length_cons, List.length_cons, ih]

/-- None of the names is in use, and no two of them are the same. -/
theorem plainParameterNames_distinct (used : List Chars) (index : Nat) (columns : List String) :
    (∀ name ∈ plainParameterNames used index columns, lower name ∉ used) ∧
      (plainParameterNames used index columns).Pairwise fun a b => lower a ≠ lower b := by
  induction columns generalizing used index with
  | nil => exact ⟨List.forall_mem_nil _, .nil⟩
  | cons column columns ih =>
    have hname := lower_plainParameterName_not_mem used index column
    rw [plainParameterNames]
    obtain ⟨hunused, hdistinct⟩ :=
      ih (lower (plainParameterName used index column) :: used) (index + 1)
    refine ⟨List.forall_mem_cons.mpr ⟨hname, fun other hother => ?_⟩,
      .cons (fun other hother => ?_) hdistinct⟩
    · exact fun hmem => hunused other hother (List.mem_cons_of_mem _ hmem)
    · exact fun hsame => hunused other hother (hsame ▸ List.mem_cons_self)

theorem length_parametersFor (style : QueryStyle) (columns : List String) :
    (style.parametersFor columns).length = columns.length := by
  rw [parametersFor, List.length_map, length_plainParameterNames]

/-- **The parameters of a list of columns differ** by more than case. -/
theorem parametersFor_distinct (style : QueryStyle) (columns : List String) :
    DistinctNames (style.parametersFor columns) := by
  refine List.pairwise_map.mpr ?_
  refine (plainParameterNames_distinct [] 0 columns).2.imp fun {a b} hne => ?_
  simpa [sameName, lower] using hne

/-- The place of a column may be the name of another one. -/
example : Dialect.mssql.style.parametersFor ["p1", "é", "date of birth"] =
    ["@p1", "@p1_", "@dateOfBirth"] := by
  decide +kernel

end QueryStyle

end SqlDialects
