import SqlDialects.DataSet
import SqlDialects.Document.Field
import SqlDialects.Document.Value

/-!
# Datasets in documents

A dataset is read column by column and row by row, as a caller would fill it, so a row of the wrong
length is an error and not a malformed document.

## Main definitions

* `DataColumn.ofDocument`, `DataSet.ofDocument` — reading.
* `DataColumn.toDocument`, `DataSet.toDocument` — writing.
-/

set_option autoImplicit false

namespace SqlDialects

/-! ## Columns -/

/-- The name of what the values of a column are. -/
def ValueKind.code : ValueKind → String
  | .text => "text"
  | .typed kind => kind.code
  | .opaqueObject => "opaque"

/-- What the values of a column are, by its name.  No name means text. -/
def ValueKind.ofCode : String → Option ValueKind
  | "" | "text" => some .text
  | "opaque" => some .opaqueObject
  | code => (TypeKind.all.find? fun kind => kind.code = code).map .typed

namespace DataColumn

/-- Reads a column. -/
def ofDocument (d : Document) : Option DataColumn :=
  (ValueKind.ofCode (d.textField "kind")).map fun kind =>
    ⟨d.textField "name", kind, !d.flag "not_null", d.flag "do_not_retype"⟩

/-- Writes a column. -/
def toDocument (c : DataColumn) : Document :=
  .object [("name", .text c.name), ("kind", .text c.kind.code),
    ("allow_nulls", .boolean c.nullable), ("do_not_retype", .boolean c.keepsText),
    ("textual", .boolean c.isTextual)]

end DataColumn

/-! ## Datasets -/

namespace DataSet

/-- Reads a dataset.  Its columns come first, then its rows, then its key. -/
def ofDocument (d : Document) : Option (Except SqlError DataSet) := do
  let columns ← (d.listField "columns").mapM DataColumn.ofDocument
  let rows ← (d.listField "rows").mapM Form.row.decode
  let start := columns.foldl addColumn { name := d.textField "name" }
  return (rows.foldlM pushRow start).map fun data =>
    data.withPrimaryKey (d.textsField "primary_key")

/-- Writes a dataset. -/
def toDocument (data : DataSet) : Document :=
  .object [("name", .text data.name),
    ("columns", .array (data.columns.map DataColumn.toDocument)),
    ("rows", .array (data.rows.map Form.row.encode)),
    ("primary_key", Form.text.list.encode data.primaryKey)]

end DataSet

end SqlDialects
