import Mathlib.Data.List.Induction
import Mathlib.Data.List.InsertIdx
import SqlDialects.DataSet
import SqlDialects.Proofs.List

/-!
# Datasets are rectangular

A dataset is made by the operations: it begins empty and gets its columns and its rows one by one.
What the operations make is rectangular, and everything that is rectangular can be made by them
(`built_iff_isRectangular`).  So a statement about rectangular datasets leaves none out.

A column that is taken out and put back is where it was (`insertColumn_withoutColumn`).
-/

set_option autoImplicit false

namespace SqlDialects

namespace DataSet

variable {data after : DataSet} {index : Nat}

instance (data : DataSet) : Decidable data.IsRectangular :=
  inferInstanceAs (Decidable (∀ row ∈ data.rows, row.length = data.columns.length))

/-! ## One operation -/

namespace IsRectangular

theorem addColumn (h : data.IsRectangular) (column : DataColumn) :
    (data.addColumn column).IsRectangular := by
  intro row hrow
  obtain ⟨old, hold, rfl⟩ := List.mem_map.mp hrow
  simp [DataSet.addColumn, h old hold]

theorem pushRow (h : data.IsRectangular) {row : List SqlValue}
    (hpush : data.pushRow row = .ok after) : after.IsRectangular := by
  rw [DataSet.pushRow] at hpush
  split at hpush
  · next hlength =>
    obtain rfl := Except.ok.inj hpush
    intro other hother
    obtain hother | hother := List.mem_append.mp hother
    · exact h other hother
    · rwa [List.mem_singleton.mp hother]
  · cases hpush

theorem insertColumn (h : data.IsRectangular) {index : Nat} {column : DataColumn}
    {values : List SqlValue} (hinsert : data.insertColumn index column values = .ok (some after)) :
    after.IsRectangular := by
  rw [DataSet.insertColumn] at hinsert
  split at hinsert
  · split at hinsert
    · next hindex =>
      obtain rfl := Option.some.inj (Except.ok.inj hinsert)
      intro row hrow
      obtain ⟨⟨old, value⟩, hmem, rfl⟩ := List.mem_map.mp hrow
      have hold : old.length = data.columns.length := h old (List.of_mem_zip hmem).1
      show (old.insertIdx index value).length = (data.columns.insertIdx index column).length
      rw [List.length_insertIdx_of_le_length (hold ▸ hindex),
        List.length_insertIdx_of_le_length hindex, hold]
    · cases hinsert
  · cases hinsert

theorem removeColumn (h : data.IsRectangular) {index : Nat} {column : DataColumn}
    {values : List SqlValue} (hremove : data.removeColumn index = some (column, values, after)) :
    after.IsRectangular := by
  rw [DataSet.removeColumn] at hremove
  split at hremove
  · next hcolumn _ =>
    cases hremove
    intro row hrow
    obtain ⟨old, hold, rfl⟩ := List.mem_map.mp hrow
    have hindex : index < data.columns.length := (List.getElem?_eq_some_iff.mp hcolumn).1
    show (old.eraseIdx index).length = (data.columns.eraseIdx index).length
    rw [List.length_eraseIdx_of_lt ((h old hold).symm ▸ hindex), List.length_eraseIdx_of_lt hindex,
      h old hold]
  · cases hremove

theorem renameColumn (h : data.IsRectangular) (index : Nat) (name : String) :
    (data.renameColumn index name).IsRectangular := by
  intro row hrow
  rw [h row hrow, DataSet.renameColumn, List.length_modify]

theorem withPrimaryKey (h : data.IsRectangular) (columns : List String) :
    (data.withPrimaryKey columns).IsRectangular := h

end IsRectangular

/-! ## What the operations make -/

/-- A dataset that is made by the operations. -/
inductive Built : DataSet → Prop
  | empty (name : String) : Built { name }
  | addColumn {data : DataSet} (h : Built data) (column : DataColumn) :
      Built (data.addColumn column)
  | pushRow {data after : DataSet} {row : List SqlValue} (h : Built data)
      (hpush : data.pushRow row = .ok after) : Built after
  | insertColumn {data after : DataSet} {index : Nat} {column : DataColumn}
      {values : List SqlValue} (h : Built data)
      (hinsert : data.insertColumn index column values = .ok (some after)) : Built after
  | removeColumn {data after : DataSet} {index : Nat} {column : DataColumn}
      {values : List SqlValue} (h : Built data)
      (hremove : data.removeColumn index = some (column, values, after)) : Built after
  | renameColumn {data : DataSet} (h : Built data) (index : Nat) (name : String) :
      Built (data.renameColumn index name)
  | withPrimaryKey {data : DataSet} (h : Built data) (columns : List String) :
      Built (data.withPrimaryKey columns)

theorem Built.isRectangular (h : data.Built) : data.IsRectangular := by
  induction h with
  | empty name => exact fun row hrow => absurd hrow List.not_mem_nil
  | addColumn _ column ih => exact ih.addColumn column
  | pushRow _ hpush ih => exact ih.pushRow hpush
  | insertColumn _ hinsert ih => exact ih.insertColumn hinsert
  | removeColumn _ hremove ih => exact ih.removeColumn hremove
  | renameColumn _ index name ih => exact ih.renameColumn index name
  | withPrimaryKey _ columns ih => exact ih.withPrimaryKey columns

theorem built_of_columns (name : String) (columns : List DataColumn) :
    Built { name, columns } := by
  induction columns using List.reverseRecOn with
  | nil => exact .empty name
  | append_singleton columns column ih => exact ih.addColumn column

theorem built_of_rows (name : String) (columns : List DataColumn) {rows : List (List SqlValue)}
    (h : ∀ row ∈ rows, row.length = columns.length) : Built { name, columns, rows } := by
  induction rows using List.reverseRecOn with
  | nil => exact built_of_columns name columns
  | append_singleton rows row ih =>
    have hrow : row.length = columns.length :=
      h row (List.mem_append_right rows List.mem_cons_self)
    exact (ih fun other hother => h other (List.mem_append_left [row] hother)).pushRow
      (if_pos hrow)

/-- **The operations make just the rectangular datasets.** -/
theorem built_iff_isRectangular : data.Built ↔ data.IsRectangular :=
  ⟨Built.isRectangular, fun h =>
    (built_of_rows data.name data.columns h).withPrimaryKey data.primaryKey⟩

/-! ## Taking a column out and putting it back -/

theorem IsRectangular.columnValues?_eq (h : data.IsRectangular)
    (hindex : index < data.columns.length) :
    data.columnValues? index = some (data.columnValues index) := by
  refine mapM_eq_some_map fun row hrow => ?_
  have hlength : index < row.length := (h row hrow).symm ▸ hindex
  rw [List.getD_eq_getElem?_getD, List.getElem?_eq_getElem hlength, Option.getD_some]

/-- A cell that is taken out of a row and put back with another value has been changed in place. -/
theorem insertIdx_eraseIdx_eq_modify {row : List SqlValue} (hindex : index < row.length)
    (f : SqlValue → SqlValue) :
    (row.eraseIdx index).insertIdx index (f (row.getD index .null)) = row.modify index f := by
  rw [List.insertIdx_eraseIdx_self (Nat.ne_of_lt hindex)]
  refine List.ext_getElem? fun i => ?_
  rw [List.getElem?_set, List.getElem?_modify]
  by_cases hi : index = i
  · subst hi
    simp [hindex]
  · simp [hi]

/-- What is left when a column has been taken out. -/
def withoutColumn (data : DataSet) (index : Nat) (column : DataColumn) : DataSet where
  name := data.name
  columns := data.columns.eraseIdx index
  rows := data.rows.map fun row => row.eraseIdx index
  primaryKey := data.primaryKey.filter fun key => !Text.sameName key column.name

theorem removeColumn_eq (hdata : data.IsRectangular) {column : DataColumn}
    (hcolumn : data.columns[index]? = some column) :
    data.removeColumn index =
      some (column, data.columnValues index, data.withoutColumn index column) := by
  rw [removeColumn, hcolumn, hdata.columnValues?_eq (List.getElem?_eq_some_iff.mp hcolumn).1]
  rfl

/-- What is left takes the column back with other values.  Its name stays out of the primary key. -/
theorem insertColumn_withoutColumn (hdata : data.IsRectangular)
    (hindex : index < data.columns.length) (column replacement : DataColumn)
    (f : SqlValue → SqlValue) :
    (data.withoutColumn index column).insertColumn index replacement
        ((data.columnValues index).map f) =
      .ok (some { name := data.name
                  columns := data.columns.set index replacement
                  rows := data.rows.map fun row => row.modify index f
                  primaryKey := data.primaryKey.filter fun key =>
                    !Text.sameName key column.name }) := by
  have hvalues : ((data.columnValues index).map f).length =
      (data.withoutColumn index column).rows.length := by
    simp [columnValues, withoutColumn]
  have hwidth : index ≤ (data.withoutColumn index column).columns.length := by
    rw [withoutColumn, List.length_eraseIdx_of_lt hindex]
    omega
  have hcolumns : (data.withoutColumn index column).columns.insertIdx index replacement =
      data.columns.set index replacement :=
    List.insertIdx_eraseIdx_self (Nat.ne_of_lt hindex) replacement
  have hrows : (((data.withoutColumn index column).rows.zip
        ((data.columnValues index).map f)).map fun cell => cell.1.insertIdx index cell.2) =
      data.rows.map fun row => row.modify index f := by
    rw [withoutColumn, columnValues, List.map_map, List.zip_map', List.map_map]
    refine List.map_congr_left fun row hrow => ?_
    exact insertIdx_eraseIdx_eq_modify ((hdata row hrow).symm ▸ hindex) f
  rw [insertColumn, if_pos hvalues, if_pos hwidth, hcolumns, hrows]
  rfl

end DataSet

end SqlDialects
