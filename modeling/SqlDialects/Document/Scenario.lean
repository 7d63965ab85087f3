import SqlDialects.CreateTable.Adjustment
import SqlDialects.Document.Field
import SqlDialects.Document.Value
import SqlDialects.Engine.Script

/-!
# Scripted engines in documents

What a scripted engine answers can be written down as a document: the databases and tables of its
catalog, the events that fail, and the rows of queries.  So can a change to the columns of a table
that is to be created.

## Main definitions

* `ColumnInfo.ofDocument`, `ScriptedTable.ofDocument` — parts of the catalog.
* `FailRule.ofDocument`, `QueryRule.ofDocument` — rules.
* `Script.ofDocument` — the whole script.
* `ColumnAdjustment.ofDocument` — a change to columns.
-/

set_option autoImplicit false

namespace SqlDialects

/-! ## The catalog -/

/-- Reads a column of the catalog. -/
def ColumnInfo.ofDocument (d : Document) : ColumnInfo :=
  ⟨d.textField "name", d.textField "data_type", !d.flag "not_null", d.flag "primary_key",
    d.flag "auto_increment", d.textField? "collation",
    SortedPairs.ofList (d.namedTexts "attributes")⟩

/-- Reads the columns of a table of the catalog. -/
def columnInfosIn (d : Document) : List ColumnInfo :=
  (d.listField "columns").map ColumnInfo.ofDocument

/-- The type of a table, which is an ordinary one unless another type is told. -/
def tableTypeIn (d : Document) : TableType :=
  ((d.field? "type").bind Form.tableType.decode).getD .table

/-- Reads a table of the catalog. -/
def ScriptedTable.ofDocument (d : Document) : Option ScriptedTable := do
  let relationships ← (d.listField "relationships").mapM Form.relationship.decode
  return ⟨⟨d.textField "name", d.textField? "schema", tableTypeIn d⟩, columnInfosIn d,
    relationships⟩

/-! ## Rules -/

/-- The error of a rule, by the code and the text of its fault. -/
def faultOf (code text : String) : SqlError :=
  match code with
  | "busy" => .adapter ⟨text, some .busy⟩
  | "locked" => .adapter ⟨text, some .locked⟩
  | "constraint" => .adapter ⟨text, some .constraint⟩
  | "naming" => .naming (.reported text)
  | _ => .adapter ⟨text, none⟩

/-- The value that a rule looks for, if it looks for one; it may be null. -/
def parameterIn (d : Document) : Option (Option SqlValue) :=
  match d.member? "param" with
  | some v => (Form.value.decode v).map some
  | none => some none

/-- Reads a rule that makes events fail. -/
def FailRule.ofDocument (d : Document) : Option FailRule := do
  let kind ← EventKind.all.find? fun kind => kind.code = d.textField "on"
  let parameter ← parameterIn d
  return ⟨kind, d.textField "contains", parameter, (d.naturalField? "skip").getD 0,
    (d.naturalField? "times").getD 1, faultOf (d.textField "code") (d.textField "message")⟩

/-- Reads a rule that gives queries their rows. -/
def QueryRule.ofDocument (d : Document) : Option QueryRule := do
  let parameter ← parameterIn d
  return ⟨d.textField "contains", parameter, ← (d.listField "rows").mapM Form.row.decode⟩

/-! ## Scripts -/

/-- Reads a script.  A rule for an event that there is not never applies. -/
def Script.ofDocument (d : Document) : Option Script := do
  let tables ← (d.listField "tables").mapM ScriptedTable.ofDocument
  let queryRules ← (d.listField "queries").mapM QueryRule.ofDocument
  return { databases := d.textsField "databases", tables, queryRules
           failRules := (d.listField "fail").filterMap FailRule.ofDocument
           affected := (d.naturalField? "affected").getD 1 }

/-! ## Changes to columns -/

/-- Reads a change to the columns of a new table. -/
def ColumnAdjustment.ofDocument (d : Document) : Option ColumnAdjustment := do
  let retyped ← (d.field "retype").members.mapM fun (name, v) => do
    return (name, ← Form.typeRequest.decode v)
  return { dropped := d.textsField "drop", retyped, renamed := d.namedTexts "rename"
           added := ← (d.listField "add").mapM Form.columnRequest.decode }

end SqlDialects
