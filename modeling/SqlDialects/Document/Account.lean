import SqlDialects.Document.Value
import SqlDialects.Engine.Script

/-!
# Accounts of what happened

Sizes with their counts, reports, errors, and the events of a scripted engine as documents.  They
are written for readers only, and nothing is read back from them.

## Main definitions

* `DecimalSize.account?`, `TypeRequest.account?` — what is told of a size and of a request.
* `CreateTableReport.toDocument` — a report without times.
* `SqlError.toDocument` — an error with those that it holds.
* `Event.toDocument` — an event.
-/

set_option autoImplicit false

namespace SqlDialects

/-! ## Sizes and requests -/

/-- A size with its digits and characters; nothing if they cannot be counted. -/
def DecimalSize.account? (d : DecimalSize) : Option Document := do
  return .object [("before", Form.word32.optional.encode d.before),
    ("after", Form.word32.optional.encode d.after),
    ("precision", Form.word32.encode (← d.precision?)), ("scale", Form.word32.encode d.scale),
    ("empty", .boolean (← d.isEmpty?)), ("length", Form.word32.encode (← d.textLength?)),
    ("text", .text (← d.render?))]

/-- A request in words and with the width of its values; nothing if either cannot be counted. -/
def TypeRequest.account? (r : TypeRequest) : Option Document := do
  return .object [("request", Form.typeRequest.encode r), ("text", .text (← r.render?)),
    ("text_width", Form.word32.optional.encode (← r.textWidth?))]

/-! ## Reports -/

/-- A report without the times, which differ from run to run. -/
def CreateTableReport.toDocument (r : CreateTableReport) : Document :=
  .object [("table", .text r.table), ("sql", .text r.sql),
    ("inferred_types", Form.encodeTypes r.inferredTypes),
    ("batch_lines", .array (r.batches.map fun b => .integer b.line)),
    ("rows_uploaded", .integer r.rowsUploaded)]

/-- An error with those that it holds.  What libraries say of files and documents is left out. -/
def SqlError.toDocument (e : SqlError) : Document :=
  let kind := ("error", .text e.kindName)
  let told := [kind, ("message", .text e.message)]
  match e with
  | .unreadableFile | .malformedYaml | .malformedJson => .object [kind]
  | .alterFailed _ cause | .bulkInsertFailed _ cause =>
    .object (told ++ [("source", cause.toDocument)])
  | .bulkDiagnosisFailed cause diagnosis =>
    .object (told ++ [("original", cause.toDocument), ("diagnostic", diagnosis.toDocument)])
  | .uploadAfterCreateFailed report cause =>
    .object (told ++ [("source", cause.toDocument), ("report", report.toDocument)])
  | _ => .object told

/-! ## Events -/

/-- The members of a statement. -/
def Command.members (c : Command) : List (String × Document) :=
  [("sql", .text c.text),
    ("params", .array (c.parameters.map fun (name, v) =>
      .array [.text name, Form.value.encode v])),
    ("timeout", Form.word32.encode c.timeout)]

/-- The members of a table. -/
def TableRef.members (t : TableRef) : List (String × Document) :=
  [("database", .text t.database), ("schema", Form.text.optional.encode t.schema),
    ("table", .text t.table), ("type", Form.tableType.encode t.tableType)]

/-- What an event tells besides its kind. -/
def Event.members : Event → List (String × Document)
  | opened n database => [("conn", .integer n), ("database", Form.text.optional.encode database)]
  | closed n | begun n | committed n | rolledBack n => [("conn", .integer n)]
  | executed n c | queried n c => ("conn", .integer n) :: c.members
  | databasesListed => []
  | databaseCreated database | databaseDropped database => [("database", .text database)]
  | tablesListed database includeViews =>
    [("database", .text database), ("views", .boolean includeViews)]
  | columnsDescribed t | relationshipsListed t | tableDropped t => t.members

/-- An event with its kind. -/
def Event.toDocument (e : Event) : Document :=
  .object (("ev", .text e.kind.code) :: e.members)

end SqlDialects
