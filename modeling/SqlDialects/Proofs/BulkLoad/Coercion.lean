import Mathlib.Algebra.BigOperators.Group.Finset.Basic
import SqlDialects.DateCoercion
import SqlDialects.Proofs.DataSet

/-!
# Dates are read column by column

To read a column of text as dates, the column is taken out of the dataset, its values are read, and
it is put back.  Every value has to be where it was, and a column that has been read is text no
more, so that it is read once.

* **`IsCoerced`** — some columns of a dataset have been read, each as a kind of its own and by its
  own texts, and the others are as they were.
* **One target** reads its column or leaves everything as it is (`coerceColumn_isCoerced`).
* **Several targets** read every column of text that they name, as the first date or time kind among
  its targets (`coerceColumns_isCoerced`).  The number that comes out counts the texts that are null
  now (`nulledTexts`).

A dataset whose rows are all as long as the list of columns is assumed throughout; the operations of
datasets keep it so.
-/

set_option autoImplicit false

namespace SqlDialects

open Text

/-- The column when it has been read as a kind, if it has. -/
def DataColumn.readAs (column : DataColumn) : Option TypeKind → DataColumn
  | none => column
  | some kind => { name := column.name, kind := .typed kind, nullable := column.nullable }

@[simp] theorem DataColumn.readAs_none (column : DataColumn) : column.readAs none = column := rfl

@[simp] theorem DataColumn.name_readAs (column : DataColumn) (kind : Option TypeKind) :
    (column.readAs kind).name = column.name := by
  cases kind <;> rfl

@[simp] theorem DataColumn.nullable_readAs (column : DataColumn) (kind : Option TypeKind) :
    (column.readAs kind).nullable = column.nullable := by
  cases kind <;> rfl

/-- One column is read as a kind, and no other is read. -/
def onlyKind (index : Nat) (kind : TypeKind) (j : Nat) : Option TypeKind :=
  if j = index then some kind else none

@[simp] theorem onlyKind_self (index : Nat) (kind : TypeKind) :
    onlyKind index kind index = some kind := if_pos rfl

theorem onlyKind_of_ne {index j : Nat} (h : index ≠ j) (kind : TypeKind) :
    onlyKind index kind j = none := if_neg (Ne.symm h)

namespace DataSet

variable {data next after : DataSet} {index : Nat}

/-! ## Values of a column -/

/-- The first value of a cell that is to be loaded into a column of the given kind: text in a column
of text is read as a date or a time where the kind says so, in the order that the first texts of the
column settle.  Everything else stays as it is. -/
def valueFor (data : DataSet) (culture : Culture) (sampleSize index : Nat) :
    Option TypeKind → SqlValue → SqlValue
  | none, value => value
  | some kind, value =>
    if kind.isDateLike && (data.columns[index]?).any DataColumn.isTextual then
      let reader := DateReader.ofSamples culture (sampleTexts (data.columnValues index) sampleSize)
      (coerceCell reader kind value).1
    else value

@[simp] theorem valueFor_none (culture : Culture) (sampleSize i : Nat) (value : SqlValue) :
    data.valueFor culture sampleSize i none value = value := rfl

/-- The reader that the first texts of a column settle. -/
def readerOf (data : DataSet) (culture : Culture) (sampleSize index : Nat) : DateReader :=
  DateReader.ofSamples culture (sampleTexts (data.columnValues index) sampleSize)

/-- The value of a cell whose column is read as a kind, if it is. -/
def readValue (data : DataSet) (culture : Culture) (sampleSize index : Nat) :
    Option TypeKind → SqlValue → SqlValue
  | none, value => value
  | some kind, value => (coerceCell (data.readerOf culture sampleSize index) kind value).1

@[simp] theorem readValue_none (culture : Culture) (sampleSize i : Nat) (value : SqlValue) :
    data.readValue culture sampleSize i none value = value := rfl

theorem readValue_null (culture : Culture) (sampleSize i : Nat) (kind : Option TypeKind) :
    data.readValue culture sampleSize i kind .null = .null := by
  cases kind <;> rfl

/-! ## Columns that have been read -/

/-- Whether a name is that of a column that is read, up to case. -/
def namesReadColumn (data : DataSet) (kinds : Nat → Option TypeKind) (name : String) : Bool :=
  data.columns.zipIdx.any fun column =>
    (kinds column.2).isSome && Text.sameName name column.1.name

theorem namesReadColumn_iff {kinds : Nat → Option TypeKind} {name : String} :
    data.namesReadColumn kinds name = true ↔ ∃ (i : Nat) (column : DataColumn),
      data.columns[i]? = some column ∧ (kinds i).isSome = true ∧
        Text.sameName name column.name = true := by
  simp only [namesReadColumn, List.any_eq_true, Prod.exists, List.mem_zipIdx_iff_getElem?,
    Bool.and_eq_true]
  exact exists_comm

/-- **Columns have been read**, each as the given kind and by its own texts, and the others are as
they were.  The names of the columns that have been read are gone from the primary key. -/
structure IsCoerced (data after : DataSet) (culture : Culture) (sampleSize : Nat)
    (kinds : Nat → Option TypeKind) : Prop where
  name : after.name = data.name
  columns : after.columns = data.columns.mapIdx fun i column => column.readAs (kinds i)
  rows : after.rows = data.rows.map fun row => row.mapIdx fun i value =>
    data.readValue culture sampleSize i (kinds i) value
  primaryKey : after.primaryKey = data.primaryKey.filter fun key => !data.namesReadColumn kinds key

variable {culture : Culture} {sampleSize : Nat} {kinds more : Nat → Option TypeKind}

/-- Nothing has been read. -/
theorem isCoerced_none (data : DataSet) (culture : Culture) (sampleSize : Nat) :
    data.IsCoerced data culture sampleSize fun _ => none := by
  refine ⟨rfl, ?_, ?_, ?_⟩
  · refine List.ext_getElem? fun i => ?_
    simp
  · have hsame : ∀ row : List SqlValue,
        (row.mapIdx fun i value => data.readValue culture sampleSize i none value) = row := by
      intro row
      refine List.ext_getElem? fun i => ?_
      simp
    exact (List.map_id'' hsame data.rows).symm
  · refine (List.filter_eq_self.mpr fun key _ => ?_).symm
    rw [Bool.not_eq_true', ← Bool.not_eq_true, namesReadColumn_iff]
    simp

namespace IsCoerced

theorem length_columns (h : data.IsCoerced after culture sampleSize kinds) :
    after.columns.length = data.columns.length := by
  rw [h.columns, List.length_mapIdx]

theorem length_rows (h : data.IsCoerced after culture sampleSize kinds) :
    after.rows.length = data.rows.length := by
  rw [h.rows, List.length_map]

theorem getElem?_columns (h : data.IsCoerced after culture sampleSize kinds) (j : Nat) :
    after.columns[j]? = (data.columns[j]?).map fun column => column.readAs (kinds j) := by
  rw [h.columns, List.getElem?_mapIdx]

theorem eq_readAs (h : data.IsCoerced after culture sampleSize kinds) {j : Nat}
    {old new : DataColumn} (hold : data.columns[j]? = some old)
    (hnew : after.columns[j]? = some new) : new = old.readAs (kinds j) := by
  rw [h.getElem?_columns, hold, Option.map_some] at hnew
  exact (Option.some.inj hnew).symm

theorem isRectangular (h : data.IsCoerced after culture sampleSize kinds)
    (hdata : data.IsRectangular) : after.IsRectangular := by
  intro row hrow
  rw [h.rows] at hrow
  obtain ⟨old, hold, rfl⟩ := List.mem_map.mp hrow
  rw [List.length_mapIdx, h.length_columns]
  exact hdata old hold

theorem columnValues_eq (h : data.IsCoerced after culture sampleSize kinds) (j : Nat) :
    after.columnValues j =
      (data.columnValues j).map (data.readValue culture sampleSize j (kinds j)) := by
  rw [columnValues, columnValues, h.rows, List.map_map, List.map_map]
  refine List.map_congr_left fun row _ => ?_
  rw [Function.comp_apply, Function.comp_apply, List.getD_eq_getElem?_getD,
    List.getD_eq_getElem?_getD, List.getElem?_mapIdx]
  cases row[j]? with
  | none => exact (data.readValue_null culture sampleSize j (kinds j)).symm
  | some value => rfl

theorem columnValues_of_none (h : data.IsCoerced after culture sampleSize kinds) {j : Nat}
    (hj : kinds j = none) : after.columnValues j = data.columnValues j := by
  rw [h.columnValues_eq, hj]
  exact List.map_id' _

/-- A column that has not been read is read by the same texts as before. -/
theorem readValue_of_none (h : data.IsCoerced after culture sampleSize kinds) {j : Nat}
    (hj : kinds j = none) (kind : Option TypeKind) :
    after.readValue culture sampleSize j kind = data.readValue culture sampleSize j kind := by
  funext value
  cases kind with
  | none => rfl
  | some kind => rw [readValue, readValue, readerOf, readerOf, h.columnValues_of_none hj]

theorem namesReadColumn_eq (h : data.IsCoerced after culture sampleSize kinds)
    (more : Nat → Option TypeKind) (name : String) :
    after.namesReadColumn more name = data.namesReadColumn more name := by
  rw [Bool.eq_iff_iff, namesReadColumn_iff, namesReadColumn_iff]
  simp only [h.getElem?_columns, Option.map_eq_some_iff]
  constructor
  · rintro ⟨j, _, ⟨column, hcolumn, rfl⟩, hkind, hsame⟩
    exact ⟨j, column, hcolumn, hkind, column.name_readAs _ ▸ hsame⟩
  · rintro ⟨j, column, hcolumn, hkind, hsame⟩
    exact ⟨j, _, ⟨column, hcolumn, rfl⟩, hkind, (column.name_readAs (kinds j)).symm ▸ hsame⟩

/-- **Columns that are read one after the other** have all been read, if none of them is read
twice. -/
theorem trans (h : data.IsCoerced next culture sampleSize kinds)
    (hmore : next.IsCoerced after culture sampleSize more)
    (hapart : ∀ j, (kinds j).isSome = true → more j = none) :
    data.IsCoerced after culture sampleSize fun j => (kinds j).or (more j) := by
  refine ⟨hmore.name.trans h.name, ?_, ?_, ?_⟩
  · refine List.ext_getElem? fun j => ?_
    rw [hmore.getElem?_columns, h.getElem?_columns, List.getElem?_mapIdx, Option.map_map]
    congr 1
    funext column
    cases hj : kinds j with
    | none => rfl
    | some kind => rw [Function.comp_apply, hapart j (hj ▸ rfl)]; rfl
  · rw [hmore.rows, h.rows, List.map_map]
    refine List.map_congr_left fun row _ => List.ext_getElem? fun j => ?_
    simp only [Function.comp_apply, List.getElem?_mapIdx, Option.map_map]
    congr 1
    funext value
    cases hj : kinds j with
    | none => rw [Function.comp_apply, h.readValue_of_none hj]; rfl
    | some kind => rw [Function.comp_apply, hapart j (hj ▸ rfl)]; rfl
  · rw [hmore.primaryKey, h.primaryKey, List.filter_filter]
    refine List.filter_congr fun key _ => ?_
    rw [h.namesReadColumn_eq, ← Bool.not_or, Bool.not_inj_iff, Bool.eq_iff_iff, Bool.or_eq_true,
      namesReadColumn_iff, namesReadColumn_iff, namesReadColumn_iff]
    simp only [Option.isSome_or, Bool.or_eq_true]
    grind

end IsCoerced

/-! ## Texts that are lost -/

/-- Whether a text that is not blank has become null. -/
def isNulled (old new : SqlValue) : Bool :=
  old.text?.any (fun text => !isBlankText text) && new == .null

/-- The number of texts of a column that have become null. -/
def nulledTextsIn (data after : DataSet) (j : Nat) : Nat :=
  ((data.columnValues j).zip (after.columnValues j)).countP fun cell => isNulled cell.1 cell.2

/-- **The number of texts that have become null**, blank ones apart. -/
def nulledTexts (data after : DataSet) : Nat :=
  ∑ j ∈ Finset.range data.columns.length, data.nulledTextsIn after j

theorem isNulled_self (value : SqlValue) : isNulled value value = false := by
  cases value <;> simp [isNulled, SqlValue.text?]

theorem nulledTextsIn_of_eq {j : Nat} (h : after.columnValues j = data.columnValues j) :
    data.nulledTextsIn after j = 0 := by
  rw [nulledTextsIn, h, columnValues, List.zip_map', List.countP_map, List.countP_eq_zero]
  exact fun row _ => Bool.eq_false_iff.mp (isNulled_self _)

theorem nulledTexts_self (data : DataSet) : data.nulledTexts data = 0 :=
  Finset.sum_eq_zero fun _ _ => nulledTextsIn_of_eq rfl

/-- A column has lost the texts that its own reading makes null. -/
theorem IsCoerced.nulledTextsIn_eq (h : data.IsCoerced after culture sampleSize kinds) (j : Nat) :
    data.nulledTextsIn after j = (data.columnValues j).countP fun value =>
      isNulled value (data.readValue culture sampleSize j (kinds j) value) := by
  rw [nulledTextsIn, h.columnValues_eq, columnValues, List.map_map, List.zip_map', List.countP_map,
    List.countP_map]
  rfl

/-- What a column has lost in two steps, one of which leaves it alone. -/
theorem nulledTextsIn_add {j : Nat} (h : next.columnValues j = data.columnValues j ∨
      after.columnValues j = next.columnValues j) :
    data.nulledTextsIn next j + next.nulledTextsIn after j = data.nulledTextsIn after j := by
  obtain h | h := h
  · rw [nulledTextsIn_of_eq h, Nat.zero_add, nulledTextsIn, nulledTextsIn, h]
  · rw [nulledTextsIn_of_eq h, Nat.add_zero, nulledTextsIn, nulledTextsIn, h]

/-- **Texts that are lost one after the other** add up. -/
theorem IsCoerced.nulledTexts_add (h : data.IsCoerced next culture sampleSize kinds)
    (hmore : next.IsCoerced after culture sampleSize more)
    (hapart : ∀ j, (kinds j).isSome = true → more j = none) :
    data.nulledTexts next + next.nulledTexts after = data.nulledTexts after := by
  rw [nulledTexts, nulledTexts, nulledTexts, h.length_columns, ← Finset.sum_add_distrib]
  refine Finset.sum_congr rfl fun j _ => nulledTextsIn_add ?_
  cases hj : kinds j with
  | none => exact .inl (h.columnValues_of_none hj)
  | some kind => exact .inr (hmore.columnValues_of_none (hapart j (hj ▸ rfl)))

/-! ## The kinds that columns are read as -/

/-- The kind that a column is read as: the first date or time kind among its targets, if it is a
column of text. -/
def coercedKind? (data : DataSet) (targets : List (Nat × TypeKind)) (j : Nat) : Option TypeKind :=
  if (data.columns[j]?).any DataColumn.isTextual then
    (targets.find? fun target => target.1 == j && target.2.isDateLike).map Prod.snd
  else none

@[simp] theorem coercedKind?_nil (data : DataSet) (j : Nat) : data.coercedKind? [] j = none := by
  rw [coercedKind?, List.find?_nil, Option.map_none, ite_self]

theorem coercedKind?_cons (data : DataSet) (target : Nat × TypeKind)
    (targets : List (Nat × TypeKind)) (j : Nat) :
    data.coercedKind? (target :: targets) j =
      (data.coercedKind? [target] j).or (data.coercedKind? targets j) := by
  by_cases htext : (data.columns[j]?).any DataColumn.isTextual = true
  · simp only [coercedKind?, if_pos htext, List.find?_cons, List.find?_nil]
    cases target.1 == j && target.2.isDateLike <;> rfl
  · simp only [coercedKind?, if_neg htext, Option.or_none]

theorem coercedKind?_singleton (data : DataSet) (index : Nat) (kind : TypeKind) :
    data.coercedKind? [(index, kind)] =
      if kind.isDateLike && (data.columns[index]?).any DataColumn.isTextual then
        onlyKind index kind
      else fun _ => none := by
  funext j
  by_cases hj : index = j
  · subst hj
    cases hkind : kind.isDateLike <;>
      by_cases htext : (data.columns[index]?).any DataColumn.isTextual = true <;>
      simp [coercedKind?, hkind, htext]
  · have hother : data.coercedKind? [(index, kind)] j = none := by simp [coercedKind?, hj]
    rw [hother]
    split
    · exact (onlyKind_of_ne hj kind).symm
    · rfl

/-- If every column has one target at most, then it is read as that, if that is a date or time
kind. -/
theorem find?_target_eq {targets : List (Nat × TypeKind)} (hapart : (targets.map Prod.fst).Nodup)
    (j : Nat) :
    (targets.find? fun target => target.1 == j && target.2.isDateLike).map Prod.snd =
      (targets.lookup j).filter TypeKind.isDateLike := by
  induction targets with
  | nil => rfl
  | cons target targets ih =>
    obtain ⟨index, kind⟩ := target
    rw [List.map_cons, List.nodup_cons] at hapart
    rw [List.find?_cons, List.lookup_cons]
    by_cases hj : j = index
    · subst hj
      have hnone : targets.lookup j = none := by
        refine List.lookup_eq_none_iff.mpr fun p hp => ?_
        rw [bne_iff_ne]
        exact fun heq => hapart.1 (List.mem_map.mpr ⟨p, hp, heq.symm⟩)
      cases hkind : kind.isDateLike <;> simp [hkind, ih hapart.2, hnone, Option.filter]
    · rw [beq_false_of_ne hj, beq_false_of_ne (Ne.symm hj)]
      exact ih hapart.2

theorem readValue_coercedKind? {targets : List (Nat × TypeKind)}
    (hapart : (targets.map Prod.fst).Nodup) (culture : Culture) (sampleSize j : Nat) :
    data.readValue culture sampleSize j (data.coercedKind? targets j) =
      data.valueFor culture sampleSize j (targets.lookup j) := by
  funext value
  rw [coercedKind?, find?_target_eq hapart]
  cases targets.lookup j with
  | none => simp
  | some kind =>
    rw [valueFor]
    cases hkind : kind.isDateLike <;>
      by_cases htext : (data.columns[j]?).any DataColumn.isTextual = true <;>
      simp [hkind, htext, readValue, readerOf, Option.filter]

/-- **A column that has been read** is text no more, and the others are to be read as before. -/
theorem IsCoerced.coercedKind?_eq (h : data.IsCoerced after culture sampleSize kinds)
    (targets : List (Nat × TypeKind)) (j : Nat) :
    after.coercedKind? targets j =
      if (kinds j).isSome then none else data.coercedKind? targets j := by
  rw [coercedKind?, h.getElem?_columns, Option.any_map]
  cases hj : kinds j with
  | none => rfl
  | some kind =>
    have htyped : ∀ column : DataColumn, (column.readAs (some kind)).isTextual = false :=
      fun _ => rfl
    simp [htyped]

end DataSet

/-! ## One target -/

/-- A text that is not blank has become null just when it counts as lost. -/
theorem isNulled_coerceCell (reader : DateReader) (kind : TypeKind) (value : SqlValue) :
    DataSet.isNulled value (coerceCell reader kind value).1 = (coerceCell reader kind value).2 := by
  cases value with
  | text text =>
    rw [coerceCell]
    split
    · next hblank => simp [DataSet.isNulled, SqlValue.text?, hblank]
    · next hblank =>
      split
      · next value hread =>
        have hvalue : value ≠ .null := by
          rintro rfl
          revert hread
          rw [readAs]
          split <;> simp
        simp [DataSet.isNulled, hvalue]
      · simp [DataSet.isNulled, SqlValue.text?, hblank]
  | _ => rfl

/-- A column of text that has been read and put back. -/
theorem isCoerced_of_textual {data : DataSet} {index : Nat} {column : DataColumn}
    (hcolumn : data.columns[index]? = some column) (culture : Culture) (sampleSize : Nat)
    (kind : TypeKind) :
    data.IsCoerced
      { name := data.name
        columns := data.columns.set index (column.readAs (some kind))
        rows := data.rows.map fun row =>
          row.modify index (data.readValue culture sampleSize index (some kind))
        primaryKey := data.primaryKey.filter fun key => !Text.sameName key column.name }
      culture sampleSize (onlyKind index kind) := by
  refine ⟨rfl, ?_, ?_, ?_⟩
  · refine List.ext_getElem? fun j => ?_
    rw [List.getElem?_set, List.getElem?_mapIdx]
    obtain ⟨hindex, -⟩ := List.getElem?_eq_some_iff.mp hcolumn
    by_cases hj : index = j
    · subst hj
      rw [if_pos rfl, if_pos hindex, hcolumn, onlyKind_self]
      rfl
    · simp [hj, onlyKind_of_ne hj]
  · refine List.map_congr_left fun row _ => List.ext_getElem? fun j => ?_
    rw [List.getElem?_modify, List.getElem?_mapIdx]
    by_cases hj : index = j
    · subst hj
      simp
    · simp [hj, onlyKind_of_ne hj]
  · refine List.filter_congr fun key _ => ?_
    rw [Bool.not_inj_iff, Bool.eq_iff_iff, DataSet.namesReadColumn_iff]
    constructor
    · intro hsame
      exact ⟨index, column, hcolumn, by simp, hsame⟩
    · rintro ⟨j, other, hother, hj, hsame⟩
      obtain rfl : j = index := by
        by_contra hne
        simp [onlyKind_of_ne (Ne.symm hne)] at hj
      rwa [Option.some.inj (hcolumn.symm.trans hother)]

/-- **Reading a column of text** keeps it in its place and counts the texts that are lost. -/
theorem coerceColumn_of_textual {data : DataSet} (hdata : data.IsRectangular) {index : Nat}
    {column : DataColumn} (hcolumn : data.columns[index]? = some column)
    (htext : column.isTextual = true) {kind : TypeKind} (hkind : kind.isDateLike = true)
    (culture : Culture) (sampleSize : Nat) {reader : DateReader}
    (hreader : DateReader.ofSamples culture
      (sampleTexts (data.columnValues index) sampleSize) = reader) :
    ∃ after, coerceColumn culture sampleSize data index kind =
        .ok (after, (data.columnValues index).countP fun value =>
          (coerceCell reader kind value).2) ∧
      data.IsCoerced after culture sampleSize (onlyKind index kind) := by
  subst hreader
  obtain ⟨after, hinsert, hcoerced⟩ : ∃ after,
      (data.withoutColumn index column).insertColumn index
          { name := column.name, kind := .typed kind, nullable := column.nullable }
          ((data.columnValues index).map fun value => (coerceCell (DateReader.ofSamples culture
            (sampleTexts (data.columnValues index) sampleSize)) kind value).1) =
        .ok (some after) ∧
      data.IsCoerced after culture sampleSize (onlyKind index kind) :=
    have hindex := (List.getElem?_eq_some_iff.mp hcolumn).1
    ⟨_, DataSet.insertColumn_withoutColumn hdata hindex column _ _,
      isCoerced_of_textual hcolumn culture sampleSize kind⟩
  refine ⟨after, ?_, hcoerced⟩
  rw [coerceColumn]
  simp [hkind, htext, hcolumn, DataSet.removeColumn_eq hdata hcolumn, List.countP_map,
    Function.comp_def, hinsert, Bind.bind, Except.bind, pure, Except.pure]

/-- The texts that are lost are those of the column that has been read. -/
theorem nulledTexts_of_onlyKind {data after : DataSet} {culture : Culture} {sampleSize index : Nat}
    {kind : TypeKind} (h : data.IsCoerced after culture sampleSize (onlyKind index kind))
    (hindex : index < data.columns.length) :
    data.nulledTexts after = (data.columnValues index).countP fun value =>
      (coerceCell (data.readerOf culture sampleSize index) kind value).2 := by
  have hothers : ∀ j ∈ Finset.range data.columns.length, j ≠ index →
      data.nulledTextsIn after j = 0 := fun j _ hj =>
    DataSet.nulledTextsIn_of_eq (h.columnValues_of_none (onlyKind_of_ne (Ne.symm hj) kind))
  rw [DataSet.nulledTexts, Finset.sum_eq_single_of_mem index (Finset.mem_range.mpr hindex) hothers,
    h.nulledTextsIn_eq, onlyKind_self]
  exact List.countP_congr fun value _ => by rw [DataSet.readValue, isNulled_coerceCell]

/-- **Reading a column** keeps it in its place, or leaves everything as it is. -/
theorem coerceColumn_isCoerced {data : DataSet} (hdata : data.IsRectangular) (culture : Culture)
    (sampleSize index : Nat) (kind : TypeKind) :
    ∃ after, coerceColumn culture sampleSize data index kind =
        .ok (after, data.nulledTexts after) ∧
      data.IsCoerced after culture sampleSize (data.coercedKind? [(index, kind)]) := by
  rw [DataSet.coercedKind?_singleton]
  split
  · next hread =>
    -- the column is taken out, read and put back
    rw [Bool.and_eq_true, Option.any_eq_true] at hread
    obtain ⟨hkind, column, hcolumn, htext⟩ := hread
    obtain ⟨after, hcoerce, hcoerced⟩ :=
      coerceColumn_of_textual hdata hcolumn htext hkind culture sampleSize rfl
    refine ⟨after, ?_, hcoerced⟩
    rw [hcoerce, nulledTexts_of_onlyKind hcoerced (List.getElem?_eq_some_iff.mp hcolumn).1]
    rfl
  · next hread =>
    refine ⟨data, ?_, data.isCoerced_none culture sampleSize⟩
    rw [Bool.not_eq_true, Bool.and_eq_false_iff] at hread
    rw [coerceColumn, if_pos (by simpa using hread), data.nulledTexts_self]
    rfl

/-! ## Several targets -/

/-- **Reading several columns** gives every column of text the first date or time kind among its
targets and leaves the others as they are. -/
theorem coerceColumns_isCoerced {data : DataSet} (hdata : data.IsRectangular) (culture : Culture)
    (sampleSize : Nat) (targets : List (Nat × TypeKind)) :
    ∃ after, coerceColumns culture sampleSize data targets = .ok (after, data.nulledTexts after) ∧
      data.IsCoerced after culture sampleSize (data.coercedKind? targets) := by
  induction targets generalizing data with
  | nil =>
    have hkinds : data.coercedKind? [] = fun _ => none := funext data.coercedKind?_nil
    refine ⟨data, ?_, hkinds ▸ data.isCoerced_none culture sampleSize⟩
    rw [data.nulledTexts_self]
    rfl
  | cons target targets ih =>
    obtain ⟨next, hread, hnext⟩ :=
      coerceColumn_isCoerced hdata culture sampleSize target.1 target.2
    obtain ⟨after, hrest, hafter⟩ := ih (hnext.isRectangular hdata)
    -- what has been read is read no more
    have hapart : ∀ j, (data.coercedKind? [target] j).isSome = true →
        next.coercedKind? targets j = none := fun j hj => by
      rw [hnext.coercedKind?_eq, if_pos hj]
    have hkinds : data.coercedKind? (target :: targets) = fun j =>
        (data.coercedKind? [target] j).or (next.coercedKind? targets j) := by
      funext j
      rw [data.coercedKind?_cons, hnext.coercedKind?_eq]
      cases data.coercedKind? [target] j <;> rfl
    refine ⟨after, ?_, hkinds ▸ hnext.trans hafter hapart⟩
    rw [coerceColumns, hread]
    show (coerceColumns culture sampleSize next targets >>= _) = _
    rw [hrest, ← hnext.nulledTexts_add hafter hapart]
    rfl

/-- **Reading several columns** gives every value what its own column makes of it, whichever columns
have been read before. -/
theorem coerceColumns_rows {data : DataSet} (hdata : data.IsRectangular) (culture : Culture)
    (sampleSize : Nat) {targets : List (Nat × TypeKind)} (hapart : (targets.map Prod.fst).Nodup) :
    ∃ after lost, coerceColumns culture sampleSize data targets = .ok (after, lost) ∧
      after.rows = data.rows.map fun row => row.mapIdx fun i value =>
        data.valueFor culture sampleSize i (targets.lookup i) value := by
  obtain ⟨after, hrun, hcoerced⟩ := coerceColumns_isCoerced hdata culture sampleSize targets
  refine ⟨after, _, hrun, hcoerced.rows.trans ?_⟩
  refine List.map_congr_left fun row _ => List.ext_getElem? fun i => ?_
  rw [List.getElem?_mapIdx, List.getElem?_mapIdx, DataSet.readValue_coercedKind? hapart]

end SqlDialects
