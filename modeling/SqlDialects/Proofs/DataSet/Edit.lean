import SqlDialects.Proofs.DataSet

/-!
# Cells stay with their columns

A dataset keeps its columns in one list and its cells in another, row by row, and every operation
edits both.  `DataSet.columnsWithCells` turns it on its side: each column with its own cells, from
the top to the bottom.  Seen so, every operation is one on a list of columns (`Edit.onColumns`), and
what it does not name it does not touch.

* `columnsWithCells_addColumn`, `columnsWithCells_pushRow`, `columnsWithCells_withoutColumn`,
  `columnsWithCells_withColumn`, `columnsWithCells_changeColumn` — the operations, one by one.
* `Edit` — the operations as data, so that there are lists of them.  An edit may be rejected, and
  then the dataset stays as it was (`DataSet.edited`).
-/

set_option autoImplicit false

namespace SqlDialects

namespace DataSet

variable {data after : DataSet} {index : Nat}

/-! ## Columns with their cells -/

/-- The columns, each with its cells from the top to the bottom. -/
def columnsWithCells (data : DataSet) : List (DataColumn × List SqlValue) :=
  data.columns.mapIdx fun index column => (column, data.columnValues index)

theorem getElem?_columnsWithCells (data : DataSet) (i : Nat) :
    data.columnsWithCells[i]? =
      (data.columns[i]?).map fun column => (column, data.columnValues i) :=
  List.getElem?_mapIdx

theorem length_columnValues (data : DataSet) (i : Nat) :
    (data.columnValues i).length = data.rows.length :=
  List.length_map _

/-- Beyond the last column there are no values. -/
theorem columnValues_length (h : data.IsRectangular) :
    data.columnValues data.columns.length = List.replicate data.rows.length .null := by
  rw [List.eq_replicate_iff]
  refine ⟨data.length_columnValues _, fun value hvalue => ?_⟩
  obtain ⟨row, hrow, rfl⟩ := List.mem_map.mp hvalue
  rw [← h row hrow, List.getD_eq_getElem?_getD, List.getElem?_eq_none (Nat.le_refl _),
    Option.getD_none]

/-! ## The operations -/

theorem columnValues_addColumn (data : DataSet) (column : DataColumn) (i : Nat) :
    (data.addColumn column).columnValues i = data.columnValues i := by
  rw [columnValues, addColumn, List.map_map, columnValues]
  refine List.map_congr_left fun row _ => ?_
  simp only [Function.comp_apply, List.getD_eq_getElem?_getD, List.getElem?_append]
  split
  · rfl
  · next h =>
    rw [List.getElem?_eq_none (Nat.le_of_not_lt h)]
    cases (i - row.length) <;> rfl

/-- A new column is empty, and the others are as they were. -/
theorem columnsWithCells_addColumn (h : data.IsRectangular) (column : DataColumn) :
    (data.addColumn column).columnsWithCells =
      data.columnsWithCells ++ [(column, List.replicate data.rows.length .null)] := by
  simp only [columnsWithCells, columnValues_addColumn]
  rw [addColumn, List.mapIdx_concat, columnValues_length h]

/-- The dataset with one more row. -/
def withRow (data : DataSet) (row : List SqlValue) : DataSet :=
  { data with rows := data.rows ++ [row] }

/-- A new row gives each column one cell more. -/
theorem columnsWithCells_withRow (data : DataSet) {row : List SqlValue}
    (hlength : row.length = data.columns.length) :
    (data.withRow row).columnsWithCells =
      List.zipWith (fun column value => (column.1, column.2 ++ [value])) data.columnsWithCells
        row := by
  have hvalues (i : Nat) :
      (data.withRow row).columnValues i = data.columnValues i ++ [row.getD i .null] := by
    simp [columnValues, withRow]
  refine List.ext_getElem? fun i => ?_
  rw [getElem?_columnsWithCells, List.getElem?_zipWith, getElem?_columnsWithCells, hvalues]
  show (data.columns[i]?).map _ = _
  by_cases hi : i < data.columns.length
  · have hrow : i < row.length := hlength ▸ hi
    simp [hi, hrow]
  · simp [hi]

/-- A column that is taken out takes its own cells with it. -/
theorem columnsWithCells_withoutColumn (data : DataSet) (index : Nat) (column : DataColumn) :
    (data.withoutColumn index column).columnsWithCells = data.columnsWithCells.eraseIdx index := by
  have hvalues (i : Nat) : (data.withoutColumn index column).columnValues i =
      data.columnValues (if i < index then i else i + 1) := by
    rw [columnValues, withoutColumn, List.map_map, columnValues]
    refine List.map_congr_left fun row _ => ?_
    simp only [Function.comp_apply, List.getD_eq_getElem?_getD, List.getElem?_eraseIdx]
    split <;> rfl
  refine List.ext_getElem? fun i => ?_
  rw [getElem?_columnsWithCells, hvalues, List.getElem?_eraseIdx, getElem?_columnsWithCells,
    getElem?_columnsWithCells, withoutColumn, List.getElem?_eraseIdx]
  split <;> rfl

/-- The dataset with one more column, which has one value for each row. -/
def withColumn (data : DataSet) (index : Nat) (column : DataColumn) (values : List SqlValue) :
    DataSet :=
  { data with
    columns := data.columns.insertIdx index column
    rows := (data.rows.zip values).map fun (row, value) => row.insertIdx index value }

theorem columnValues_withColumn (h : data.IsRectangular) (hindex : index ≤ data.columns.length)
    (column : DataColumn) {values : List SqlValue} (hlength : values.length = data.rows.length)
    (i : Nat) :
    (data.withColumn index column values).columnValues i =
      if i < index then data.columnValues i
      else if i = index then values else data.columnValues (i - 1) := by
  have hcell : ∀ cell ∈ data.rows.zip values, (cell.1.insertIdx index cell.2).getD i .null =
      if i < index then cell.1.getD i .null
      else if i = index then cell.2 else cell.1.getD (i - 1) .null := by
    intro cell hcell
    have hrow : index ≤ cell.1.length := (h cell.1 (List.of_mem_zip hcell).1).symm ▸ hindex
    simp only [List.getD_eq_getElem?_getD, List.getElem?_insertIdx]
    split
    · rfl
    · split
      · next heq => rw [if_pos (heq ▸ hrow), Option.getD_some]
      · rfl
  have hrows (j : Nat) : ((data.rows.zip values).map fun cell => cell.1.getD j .null) =
      data.columnValues j := by
    have hfst := List.map_fst_zip (Nat.le_of_eq hlength.symm)
    calc (data.rows.zip values).map (fun cell => cell.1.getD j .null)
        = ((data.rows.zip values).map Prod.fst).map fun row => row.getD j .null := by
          rw [List.map_map]
          rfl
      _ = data.columnValues j := by rw [hfst, columnValues]
  rw [columnValues, withColumn, List.map_map]
  refine (List.map_congr_left hcell).trans ?_
  split
  · exact hrows _
  · split
    · exact List.map_snd_zip (Nat.le_of_eq hlength)
    · exact hrows _

/-- A column that is put in brings its own cells with it. -/
theorem columnsWithCells_withColumn (h : data.IsRectangular) (hindex : index ≤ data.columns.length)
    (column : DataColumn) {values : List SqlValue} (hlength : values.length = data.rows.length) :
    (data.withColumn index column values).columnsWithCells =
      data.columnsWithCells.insertIdx index (column, values) := by
  refine List.ext_getElem? fun i => ?_
  rw [getElem?_columnsWithCells, columnValues_withColumn h hindex column hlength,
    List.getElem?_insertIdx, getElem?_columnsWithCells, getElem?_columnsWithCells, withColumn,
    List.getElem?_insertIdx]
  split
  · rfl
  · split
    · simp [columnsWithCells, List.length_mapIdx, apply_ite (Option.map _)]
    · rfl

/-- The dataset with a column changed in place, be it that there is none. -/
def changeColumn (data : DataSet) (index : Nat) (change : DataColumn → DataColumn) : DataSet :=
  { data with columns := data.columns.modify index change }

theorem renameColumn_eq_changeColumn (data : DataSet) (index : Nat) (name : String) :
    data.renameColumn index name = data.changeColumn index fun column => { column with name } :=
  rfl

theorem columnsWithCells_changeColumn (data : DataSet) (index : Nat)
    (change : DataColumn → DataColumn) :
    (data.changeColumn index change).columnsWithCells =
      data.columnsWithCells.modify index fun column => (change column.1, column.2) := by
  refine List.ext_getElem? fun i => ?_
  rw [getElem?_columnsWithCells, changeColumn, List.getElem?_modify, List.getElem?_modify,
    getElem?_columnsWithCells]
  cases data.columns[i]? with
  | none => rfl
  | some column => by_cases hi : index = i <;> simp [hi, columnValues]

/-! ## Edits -/

/-- An operation on a dataset, with what is given to it. -/
inductive Edit where
  | addColumn (column : DataColumn)
  | pushRow (row : List SqlValue)
  | removeColumn (index : Nat)
  | insertColumn (index : Nat) (column : DataColumn) (values : List SqlValue)
  | setPrimaryKey (columns : List String)
  | changeColumn (index : Nat) (change : DataColumn → DataColumn)

namespace Edit

/-- The place that the edit names is one of the dataset. -/
def IsInRange (edit : Edit) (data : DataSet) : Prop :=
  match edit with
  | removeColumn index => index < data.columns.length
  | insertColumn index _ _ => index ≤ data.columns.length
  | _ => True

/-- There are as many values as the dataset has columns for a row or rows for a column. -/
def Fits (edit : Edit) (data : DataSet) : Prop :=
  match edit with
  | pushRow row => row.length = data.columns.length
  | insertColumn _ _ values => values.length = data.rows.length
  | _ => True

instance (edit : Edit) (data : DataSet) : Decidable (edit.IsInRange data) :=
  match edit with
  | removeColumn index => inferInstanceAs (Decidable (index < data.columns.length))
  | insertColumn index _ _ => inferInstanceAs (Decidable (index ≤ data.columns.length))
  | addColumn _ | pushRow _ | setPrimaryKey _ | changeColumn _ _ => inferInstanceAs (Decidable True)

instance (edit : Edit) (data : DataSet) : Decidable (edit.Fits data) :=
  match edit with
  | pushRow row => inferInstanceAs (Decidable (row.length = data.columns.length))
  | insertColumn _ _ values => inferInstanceAs (Decidable (values.length = data.rows.length))
  | addColumn _ | removeColumn _ | setPrimaryKey _ | changeColumn _ _ =>
    inferInstanceAs (Decidable True)

/-- What an edit comes to: the dataset after it, or the error with which it is rejected.  There is
nothing that it comes to at a place that there is not. -/
def outcome (edit : Edit) (data : DataSet) : Option (Except SqlError DataSet) :=
  match edit with
  | addColumn column => some (.ok (data.addColumn column))
  | pushRow row => some (data.pushRow row)
  | removeColumn index => (data.removeColumn index).map fun removed => .ok removed.2.2
  | insertColumn index column values =>
    match data.insertColumn index column values with
    | .ok after => after.map .ok
    | .error e => some (.error e)
  | setPrimaryKey columns => some (.ok (data.withPrimaryKey columns))
  | changeColumn index change => some (.ok (data.changeColumn index change))

/-- What an edit does to the columns and their cells, where there are so many rows. -/
def onColumns (rows : Nat) (edit : Edit) (columns : List (DataColumn × List SqlValue)) :
    List (DataColumn × List SqlValue) :=
  match edit with
  | addColumn column => columns ++ [(column, List.replicate rows .null)]
  | pushRow row => List.zipWith (fun column value => (column.1, column.2 ++ [value])) columns row
  | removeColumn index => columns.eraseIdx index
  | insertColumn index column values => columns.insertIdx index (column, values)
  | setPrimaryKey _ => columns
  | changeColumn index change => columns.modify index fun column => (change column.1, column.2)

/-- The rows that an edit adds. -/
def addedRows : Edit → Nat
  | pushRow _ => 1
  | _ => 0

end Edit

/-- The dataset after an edit.  An edit that is rejected leaves it as it was. -/
def edited (data : DataSet) (edit : Edit) : Option DataSet :=
  (edit.outcome data).map fun result =>
    match result with
    | .ok after => after
    | .error _ => data

variable {edit : Edit}

/-- **What an edit leaves behind**: a rectangular dataset, whose columns have become what the edit
makes of them, each with its own cells. -/
structure IsEditOf (data : DataSet) (edit : Edit) (after : DataSet) : Prop where
  isRectangular : after.IsRectangular
  columns : after.columnsWithCells = edit.onColumns data.rows.length data.columnsWithCells
  rows : after.rows.length = data.rows.length + edit.addedRows

theorem insertColumn_of_length_eq {index : Nat} {values : List SqlValue}
    (hlength : values.length = data.rows.length) (hindex : index ≤ data.columns.length)
    (column : DataColumn) :
    data.insertColumn index column values = .ok (some (data.withColumn index column values)) := by
  rw [insertColumn, if_pos hlength, if_pos hindex]
  rfl

/-- **An edit that fits is carried out.** -/
theorem exists_isEditOf (h : data.IsRectangular) (hrange : edit.IsInRange data)
    (hfits : edit.Fits data) :
    ∃ after, edit.outcome data = some (.ok after) ∧ IsEditOf data edit after := by
  cases edit with
  | addColumn column =>
    refine ⟨_, rfl, h.addColumn column, columnsWithCells_addColumn h column, ?_⟩
    exact List.length_map _
  | pushRow row =>
    have hpush : data.pushRow row = .ok (data.withRow row) := if_pos hfits
    refine ⟨_, congrArg some hpush, h.pushRow hpush, columnsWithCells_withRow data hfits, ?_⟩
    exact List.length_append
  | removeColumn index =>
    have hremove := removeColumn_eq h (List.getElem?_eq_getElem hrange)
    refine ⟨_, congrArg (Option.map _) hremove, h.removeColumn hremove,
      columnsWithCells_withoutColumn data index _, ?_⟩
    exact List.length_map _
  | insertColumn index column values =>
    have hinsert := insertColumn_of_length_eq hfits hrange column
    refine ⟨data.withColumn index column values, ?_, h.insertColumn hinsert,
      columnsWithCells_withColumn h hrange column hfits, ?_⟩
    · rw [Edit.outcome, hinsert]
      rfl
    · have hzip : (data.rows.zip values).length = data.rows.length := by
        rw [List.length_zip, hfits, Nat.min_self]
      exact (List.length_map _).trans hzip
  | setPrimaryKey columns => exact ⟨_, rfl, h, rfl, rfl⟩
  | changeColumn index change =>
    refine ⟨_, rfl, fun row hrow => ?_, columnsWithCells_changeColumn data index change, rfl⟩
    rw [h row hrow, changeColumn, List.length_modify]

/-- **An edit that does not fit is rejected.** -/
theorem exists_outcome_eq_error (hfits : ¬edit.Fits data) :
    ∃ e, edit.outcome data = some (.error e) := by
  cases edit with
  | pushRow row => exact ⟨_, congrArg some (if_neg hfits)⟩
  | insertColumn index column values =>
    have hreject : data.insertColumn index column values = .error _ := if_neg hfits
    rw [Edit.outcome, hreject]
    exact ⟨_, rfl⟩
  | addColumn column | removeColumn index | setPrimaryKey columns | changeColumn index change =>
    exact absurd trivial hfits

/-- An edit that fits comes to nothing at a place that there is not. -/
theorem outcome_eq_none (hfits : edit.Fits data) (hrange : ¬edit.IsInRange data) :
    edit.outcome data = none := by
  cases edit with
  | removeColumn index =>
    have hnone : data.columns[index]? = none := List.getElem?_eq_none (Nat.le_of_not_lt hrange)
    simp [Edit.outcome, removeColumn, hnone]
  | insertColumn index column values =>
    have hnone : data.insertColumn index column values = .ok none :=
      (if_pos hfits).trans (if_neg hrange)
    rw [Edit.outcome, hnone]
    rfl
  | addColumn column | pushRow row | setPrimaryKey columns | changeColumn index change =>
    exact absurd trivial hrange

/-- **An edit keeps a dataset rectangular**, be it rejected or not. -/
theorem IsRectangular.edited (h : data.IsRectangular) (hedited : data.edited edit = some after) :
    after.IsRectangular := by
  by_cases hfits : edit.Fits data
  · by_cases hrange : edit.IsInRange data
    · obtain ⟨result, houtcome, hresult⟩ := exists_isEditOf h hrange hfits
      rw [DataSet.edited, houtcome] at hedited
      obtain rfl := Option.some.inj hedited
      exact hresult.isRectangular
    · rw [DataSet.edited, outcome_eq_none hfits hrange] at hedited
      contradiction
  · obtain ⟨e, houtcome⟩ := exists_outcome_eq_error hfits
    rw [DataSet.edited, houtcome] at hedited
    obtain rfl := Option.some.inj hedited
    exact h

/-- **So does a run of edits.** -/
theorem IsRectangular.foldlM_edited {edits : List Edit} (h : data.IsRectangular)
    (hrun : edits.foldlM DataSet.edited data = some after) : after.IsRectangular := by
  induction edits generalizing data with
  | nil =>
    obtain rfl := Option.some.inj hrun
    exact h
  | cons edit edits ih =>
    rw [List.foldlM_cons] at hrun
    obtain ⟨next, hnext, hrest⟩ := Option.bind_eq_some_iff.mp hrun
    exact ih (h.edited hnext) hrest

/-- **A column that is put back where it was** restores columns and rows. -/
theorem exists_insertColumn_withoutColumn (h : data.IsRectangular) {index : Nat}
    {column : DataColumn} (hcolumn : data.columns[index]? = some column) :
    ∃ restored, (data.withoutColumn index column).insertColumn index column
        (data.columnValues index) = .ok (some restored) ∧
      restored.columns = data.columns ∧ restored.rows = data.rows := by
  obtain ⟨hindex, rfl⟩ := List.getElem?_eq_some_iff.mp hcolumn
  have hinsert := insertColumn_withoutColumn h hindex data.columns[index] data.columns[index] id
  rw [List.map_id] at hinsert
  refine ⟨_, hinsert, List.set_getElem_self hindex, ?_⟩
  simp [List.modify_id]

/-- **A dataset is rectangular throughout, and its cells stay with their columns.**  After any run
of edits from an empty dataset, the next edit at a place that there is either fits, and then it does
to the columns what it says and nothing else, or it is rejected, and then it does nothing.  A column
is taken out with its own cells, and put back it restores the columns and the rows. -/
theorem edited_stays_rectangular (name : String) (edits : List Edit) (data : DataSet)
    (hrun : edits.foldlM DataSet.edited { name } = some data) :
    data.IsRectangular ∧
    (∀ edit : Edit, edit.IsInRange data →
      (edit.Fits data → ∃ after, edit.outcome data = some (.ok after) ∧
        data.edited edit = some after ∧ IsEditOf data edit after) ∧
      (¬edit.Fits data → ∃ e, edit.outcome data = some (.error e) ∧
        data.edited edit = some data)) ∧
    ∀ index column values, data.columnsWithCells[index]? = some (column, values) →
      ∃ after, data.removeColumn index = some (column, values, after) ∧
        ∃ restored, after.insertColumn index column values = .ok (some restored) ∧
          restored.columns = data.columns ∧ restored.rows = data.rows := by
  have hempty : IsRectangular { name } := List.forall_mem_nil _
  have h : data.IsRectangular := hempty.foldlM_edited hrun
  refine ⟨h, fun edit hrange => ⟨fun hfits => ?_, fun hfits => ?_⟩,
    fun index column values hat => ?_⟩
  · obtain ⟨after, houtcome, hafter⟩ := exists_isEditOf h hrange hfits
    exact ⟨after, houtcome, congrArg (Option.map _) houtcome, hafter⟩
  · obtain ⟨e, houtcome⟩ := exists_outcome_eq_error hfits
    exact ⟨e, houtcome, congrArg (Option.map _) houtcome⟩
  · rw [getElem?_columnsWithCells] at hat
    obtain ⟨other, hcolumn, heq⟩ := Option.map_eq_some_iff.mp hat
    obtain ⟨rfl, rfl⟩ := Prod.mk.inj heq
    exact ⟨_, removeColumn_eq h hcolumn, exists_insertColumn_withoutColumn h hcolumn⟩

/-- Edits of all kinds, two of which are rejected. -/
def peopleEdits : List Edit :=
  [.addColumn { name := "name" }, .pushRow [.text "dave"], .pushRow [], .setPrimaryKey ["Name"],
    .pushRow [.text "frank"], .insertColumn 0 { name := "age" } [.null],
    .insertColumn 0 { name := "age" } [.int32 18, .null], .removeColumn 1,
    .insertColumn 1 { name := "name" } [.text "dave", .text "frank"],
    .changeColumn 1 fun column => { column with name := "first name" },
    .setPrimaryKey ["first name"]]

/-- What they make of an empty dataset. -/
def people : DataSet where
  name := "people"
  columns := [{ name := "age" }, { name := "first name" }]
  rows := [[.int32 18, .text "dave"], [.null, .text "frank"]]
  primaryKey := ["first name"]

theorem edited_stays_rectangular_people :
    peopleEdits.foldlM edited { name := "people" } = some people ∧ people.IsRectangular ∧
    people.edited (.pushRow []) = some people ∧
    ∃ after, people.removeColumn 0 = some ({ name := "age" }, [.int32 18, .null], after) ∧
      ∃ restored, after.insertColumn 0 { name := "age" } [.int32 18, .null] = .ok (some restored) ∧
        restored.columns = people.columns ∧ restored.rows = people.rows := by
  have hrun : peopleEdits.foldlM edited { name := "people" } = some people := by decide +kernel
  obtain ⟨hrectangular, hedits, hremove⟩ :=
    edited_stays_rectangular "people" peopleEdits people hrun
  obtain ⟨e, -, hrejected⟩ := (hedits (.pushRow []) trivial).2 (by decide)
  exact ⟨hrun, hrectangular, hrejected, hremove 0 _ _ rfl⟩

end DataSet

end SqlDialects
