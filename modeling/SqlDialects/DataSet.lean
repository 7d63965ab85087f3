import SqlDialects.Error
import SqlDialects.Text.Ascii
import SqlDialects.Value

/-!
# Datasets

A dataset is a table in memory: columns, rows of values, and the names of the columns that make up
its primary key.  Every row has one value for each column, and the operations keep it so.

## Main definitions

* `DataSet` — the columns and rows.
* `DataSet.addColumn`, `pushRow`, `insertColumn`, `removeColumn` — the operations.
* `DataSet.IsRectangular` — every row is as long as the list of columns.
-/

set_option autoImplicit false

namespace SqlDialects

open Text

/-! ## Columns -/

/-- What the values of a column are. -/
inductive ValueKind where
  /-- Text whose type has to be guessed. -/
  | text
  /-- Values of a known kind. -/
  | typed (kind : TypeKind)
  /-- Objects that mean nothing to a database. -/
  | opaqueObject
deriving DecidableEq, Repr, Inhabited

/-- A column of a dataset. -/
structure DataColumn where
  name : String
  kind : ValueKind := .text
  nullable : Bool := true
  /-- The column is to keep its text as it is. -/
  keepsText : Bool := false
deriving DecidableEq, Repr, Inhabited

/-- Whether the values are text that has to be interpreted. -/
def DataColumn.isTextual (c : DataColumn) : Bool := c.kind == .text

/-! ## Datasets -/

/-- Columns and rows. -/
structure DataSet where
  name : String
  columns : List DataColumn := []
  rows : List (List SqlValue) := []
  /-- The names of the columns of the primary key. -/
  primaryKey : List String := []
deriving DecidableEq, Repr, Inhabited

namespace DataSet

/-- Every row has one value for each column. -/
def IsRectangular (d : DataSet) : Prop := ∀ row ∈ d.rows, row.length = d.columns.length

/-- The first column of the name, whatever its case. -/
def columnIndex (d : DataSet) (name : String) : Option Nat :=
  d.columns.findIdx? fun c => sameName c.name name

/-- Whether the primary key names the column. -/
def isPrimaryKey (d : DataSet) (column : String) : Bool :=
  d.primaryKey.any fun key => sameName key column

/-- The values of a column from the top to the bottom, if there is such a column. -/
def columnValues? (d : DataSet) (index : Nat) : Option (List SqlValue) :=
  d.rows.mapM fun row => row[index]?

/-- The values of a column, where a missing one counts as null. -/
def columnValues (d : DataSet) (index : Nat) : List SqlValue :=
  d.rows.map fun row => row.getD index .null

/-! ## Operations -/

/-- Adds a column at the end, null in every row. -/
def addColumn (d : DataSet) (column : DataColumn) : DataSet :=
  { d with columns := d.columns ++ [column], rows := d.rows.map (· ++ [.null]) }

/-- Adds a row at the end, which has to have one value for each column. -/
def pushRow (d : DataSet) (row : List SqlValue) : Except SqlError DataSet :=
  if row.length = d.columns.length then .ok { d with rows := d.rows ++ [row] }
  else .error (.invalidArgument (.rowLength row.length d.name d.columns.length))

/-- Takes a column out, and its name out of the primary key. -/
def removeColumn (d : DataSet) (index : Nat) : Option (DataColumn × List SqlValue × DataSet) :=
  match d.columns[index]?, d.columnValues? index with
  | some column, some values =>
    some (column, values,
      { d with
        columns := d.columns.eraseIdx index
        rows := d.rows.map fun row => row.eraseIdx index
        primaryKey := d.primaryKey.filter fun key => !sameName key column.name })
  | _, _ => none

/-- Puts a column at a place, with one value for each row.  There is no place beyond the one after
the last column. -/
def insertColumn (d : DataSet) (index : Nat) (column : DataColumn) (values : List SqlValue) :
    Except SqlError (Option DataSet) :=
  if values.length = d.rows.length then
    if index ≤ d.columns.length then
      .ok (some { d with
        columns := d.columns.insertIdx index column
        rows := (d.rows.zip values).map fun (row, value) => row.insertIdx index value })
    else .ok none
  else .error (.invalidArgument (.columnLength column.name values.length d.name d.rows.length))

/-- Changes the name of a column. -/
def renameColumn (d : DataSet) (index : Nat) (name : String) : DataSet :=
  { d with columns := d.columns.modify index fun column => { column with name } }

/-- Sets the primary key. -/
def withPrimaryKey (d : DataSet) (columns : List String) : DataSet :=
  { d with primaryKey := columns }

end DataSet

end SqlDialects
