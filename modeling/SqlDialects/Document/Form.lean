import SqlDialects.Config.Basic
import SqlDialects.Document.Json
import SqlDialects.Relationship

/-!
# The forms of things in documents

A `Form` says how things of some type are written in documents and how they are read back.  Members
that are not known are passed over when a record is read, and many members may be left out.

## Main definitions

* `Form` — writing and reading.
* `Form.named`, `optional`, `list`, `pair` — forms made of others.
* `Form.typeRequest`, `columnRequest`, `relationship`, `config`, and others — the forms of the types
  of this library.
* `CreateTableReport.toJson` — a report as text.
-/

set_option autoImplicit false

namespace SqlDialects

/-- How things are written in documents and read back. -/
structure Form (α : Type) where
  encode : α → Document
  decode : Document → Option α

/-- A function as it is named in documents. -/
def ScalarFunction.code : ScalarFunction → String
  | .now => "now"
  | .newGuid => "new_guid"
  | .length => "len"

namespace Form

variable {α β : Type}

/-! ## Simple forms -/

/-- A text. -/
def text : Form String := ⟨.text, Document.text?⟩

/-- A truth value. -/
def boolean : Form Bool := ⟨.boolean, Document.boolean?⟩

/-- A number up to a limit. -/
def natural (limit : Nat) : Form Nat := ⟨fun n => .integer n, Document.natural? limit⟩

/-- A word of 32 bits. -/
def word32 : Form UInt32 :=
  ⟨fun n => .integer n.toNat, fun d => (d.natural? 4294967295).map UInt32.ofNat⟩

/-- A count, which has to fit in 64 bits. -/
def count : Form Nat := natural 18446744073709551615

/-- One of finitely many things, by its name.  Things may have several names, of which the first is
written. -/
def named (all : List α) (names : α → List String) : Form α where
  encode a := .text ((names a).headD "")
  decode d := d.name?.bind fun name => all.find? fun a => name ∈ names a

/-- Something that may be absent. -/
def optional (f : Form α) : Form (Option α) where
  encode
    | some a => f.encode a
    | none => .null
  decode d :=
    match d.optional? with
    | some (some d) => (f.decode d).map some
    | some none => some none
    | none => none

/-- A list. -/
def list (f : Form α) : Form (List α) where
  encode items := .array (items.map f.encode)
  decode d := d.items?.bind fun items => items.mapM f.decode

/-- A pair, written as a list of two. -/
def pair (f : Form α) (g : Form β) : Form (α × β) where
  encode := fun (a, b) => .array [f.encode a, g.encode b]
  decode d :=
    match d.items? with
    | some [a, b] => do pure (← f.decode a, ← g.decode b)
    | _ => none

/-- Reads a member of a record that has to be there. -/
def required (f : Form α) (member : Option Document) : Option α := member.bind f.decode

/-- Reads a member of a record that may be missing. -/
def orElse (f : Form α) (default : α) : Option Document → Option α
  | some d => f.decode d
  | none => some default

/-- The member of a record, which is left out if there is no value. -/
def unlessAbsent (f : Form α) (name : String) : Option α → List (String × Document)
  | some a => [(name, f.encode a)]
  | none => []

/-! ## Names -/

/-- A kind of column type. -/
def typeKind : Form TypeKind := named TypeKind.all fun kind => [kind.code]

/-- A dialect. -/
def dialect : Form Dialect := named Dialect.all fun dialect => [dialect.name]

/-- A culture. -/
def culture : Form Culture :=
  named [.invariant, .enUS, .enGB] fun
    | .invariant => ["invariant", ""]
    | .enUS => ["en-US", "en-us"]
    | .enGB => ["en-GB", "en-gb"]

/-- What an object with columns is. -/
def tableType : Form TableType :=
  named [.table, .view, .tableValuedFunction] fun type => [type.code]

/-- What happens to rows whose referenced row is deleted. -/
def cascadeRule : Form CascadeRule :=
  named [.delete, .noAction, .setNull, .setDefault, .unknown] fun rule => [rule.code]

/-- The strength of a setting. -/
def keywordPriority : Form KeywordPriority :=
  named KeywordPriority.all fun priority => [priority.code]

/-- The value that a column takes by default. -/
def columnDefault : Form ColumnDefault :=
  named [.none, .now, .newGuid] fun default => [default.code]

/-- A function that generated statements call. -/
def scalarFunction : Form ScalarFunction :=
  named [.now, .newGuid, .length] fun function => [function.code]

/-! ## Records -/

/-- The digits of a fixed-point number. -/
def decimalSize : Form DecimalSize where
  encode size :=
    .object [("before_decimal", word32.optional.encode size.before),
      ("after_decimal", word32.optional.encode size.after)]
  decode d := do
    let [before, after] ←
      d.members? [("before_decimal", .allowedByName), ("after_decimal", .allowedByName)] | none
    pure { before := ← word32.optional.orElse none before
           after := ← word32.optional.orElse none after }

/-- A request for a column type. -/
def typeRequest : Form TypeRequest where
  encode r :=
    .object ([("kind", typeKind.encode r.kind)] ++ word32.unlessAbsent "width" r.width ++
      decimalSize.unlessAbsent "decimal_size" r.decimalSize ++
      [("unicode", boolean.encode r.unicode)])
  decode d := do
    let [kind, width, size, unicode] ←
      d.members? [("kind", .refused), ("width", .allowed), ("decimal_size", .allowed),
        ("unicode", .allowed)] | none
    pure { kind := ← typeKind.required kind
           width := ← word32.optional.orElse none width
           decimalSize := ← decimalSize.optional.orElse none size
           unicode := ← boolean.orElse false unicode }

/-- A column to be created. -/
def columnRequest : Form ColumnRequest where
  encode c :=
    .object [("name", text.encode c.name),
      ("type_request", typeRequest.optional.encode c.typeRequest),
      ("explicit_type", text.optional.encode c.explicitType),
      ("allow_nulls", boolean.encode c.nullable),
      ("is_primary_key", boolean.encode c.isPrimaryKey),
      ("is_auto_increment", boolean.encode c.isAutoIncrement),
      ("default", columnDefault.encode c.default),
      ("collation", text.optional.encode c.collation)]
  decode d := do
    let [name, type, explicit, nullable, key, counting, default, collation] ←
      d.members? [("name", .refused), ("type_request", .allowed), ("explicit_type", .allowed),
        ("allow_nulls", .allowed), ("is_primary_key", .allowed), ("is_auto_increment", .allowed),
        ("default", .allowed), ("collation", .allowed)] | none
    pure { name := ← text.required name
           typeRequest := ← typeRequest.optional.orElse none type
           explicitType := ← text.optional.orElse none explicit
           nullable := ← boolean.orElse true nullable
           isPrimaryKey := ← boolean.orElse false key
           isAutoIncrement := ← boolean.orElse false counting
           default := ← columnDefault.orElse .none default
           collation := ← text.optional.orElse none collation }

/-- A foreign key. -/
def relationship : Form Relationship where
  encode r :=
    .object [("name", text.encode r.name), ("primary_table", text.encode r.primaryTable),
      ("foreign_table", text.encode r.foreignTable),
      ("keys", (text.pair text).list.encode r.keys),
      ("cascade_delete", cascadeRule.encode r.rule)]
  decode d := do
    let [name, primary, foreign, keys, rule] ←
      d.members? [("name", .refused), ("primary_table", .refused), ("foreign_table", .refused),
        ("keys", .refused), ("cascade_delete", .refused)] | none
    pure { name := ← text.required name
           primaryTable := ← text.required primary
           foreignTable := ← text.required foreign
           keys := ← (text.pair text).list.required keys
           rule := ← cascadeRule.required rule }

/-! ## Configuration -/

/-- The settings of table creation. -/
def createTableSettings : Form CreateTableSettings where
  encode s :=
    .object ([("batch_separator", text.encode s.batchSeparator),
      ("timeout_secs", word32.encode s.timeout)] ++ count.unlessAbsent "sample_rows" s.sampleRows)
  decode d := do
    let [separator, timeout, rows] ←
      d.members? [("batch_separator", .allowed), ("timeout_secs", .allowed),
        ("sample_rows", .allowed)] | none
    pure { batchSeparator := ← text.orElse defaultSeparator separator
           timeout := ← word32.orElse defaultTimeout timeout
           sampleRows := ← count.optional.orElse none rows }

/-- The settings of bulk loads. -/
def bulkLoadSettings : Form BulkLoadSettings where
  encode s :=
    .object [("timeout_secs", word32.encode s.timeout),
      ("allow_unmatched_input_columns", boolean.encode s.allowUnmatched),
      ("date_sample_size", count.encode s.sampleSize),
      ("culture", culture.encode s.culture)]
  decode d := do
    let [timeout, unmatched, size, cultureName] ←
      d.members? [("timeout_secs", .allowed), ("allow_unmatched_input_columns", .allowed),
        ("date_sample_size", .allowed), ("culture", .allowed)] | none
    pure { timeout := ← word32.orElse defaultTimeout timeout
           allowUnmatched := ← boolean.orElse false unmatched
           sampleSize := ← count.orElse defaultSampleSize size
           culture := ← culture.orElse .enUS cultureName }

/-- A connection keyword. -/
def keywordSetting : Form KeywordSetting where
  encode s :=
    .object [("dialect", text.encode s.dialect), ("keyword", text.encode s.keyword),
      ("value", text.encode s.value), ("priority", keywordPriority.encode s.priority)]
  decode d := do
    let [dialectName, keyword, value, priority] ←
      d.members? [("dialect", .refused), ("keyword", .refused), ("value", .refused),
        ("priority", .allowed)] | none
    pure { dialect := ← text.required dialectName
           keyword := ← text.required keyword
           value := ← text.required value
           priority := ← keywordPriority.orElse .apiRule priority }

/-- A configuration. -/
def config : Form Config where
  encode c :=
    .object [("create_table", createTableSettings.encode c.createTable),
      ("bulk_load", bulkLoadSettings.encode c.bulkLoad),
      ("keywords", keywordSetting.list.encode c.keywords)]
  decode d := do
    let [create, bulk, keywords] ←
      d.members? [("create_table", .allowed), ("bulk_load", .allowed),
        ("keywords", .allowed)] | none
    pure { createTable := ← createTableSettings.orElse {} create
           bulkLoad := ← bulkLoadSettings.orElse {} bulk
           keywords := ← keywordSetting.list.orElse [] keywords }

/-! ## Reports -/

/-- Types by the names of their columns. -/
def encodeTypes (types : SortedPairs TypeRequest) : Document :=
  .object (types.map fun (name, r) => (name, typeRequest.encode r))

/-- An executed batch. -/
def encodeBatch (b : BatchTiming) : Document :=
  .object [("line", .integer b.line), ("elapsed_ms", .integer b.elapsedMs)]

/-- What creating a table did. -/
def encodeReport (r : CreateTableReport) : Document :=
  .object [("table", .text r.table), ("sql", .text r.sql),
    ("inferred_types", encodeTypes r.inferredTypes),
    ("batches", .array (r.batches.map encodeBatch)), ("rows_uploaded", .integer r.rowsUploaded)]

end Form

/-- A report as JSON text. -/
def CreateTableReport.toJson (r : CreateTableReport) : String := (Form.encodeReport r).renderJson

end SqlDialects
