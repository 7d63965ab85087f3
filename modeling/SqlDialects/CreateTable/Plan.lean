import SqlDialects.ColumnRequest
import SqlDialects.CreateTable.Batch
import SqlDialects.Guess
import SqlDialects.Schema.Column

/-!
# Planning a table

The columns of a new table come from requests of the caller and from the columns of a dataset that
is to be loaded into it.  For a column of the dataset the request of the same name decides; without
one, text is guessed from its values, and a typed column keeps its kind and takes only the size from
its values.  Requests that no column of the dataset asks for follow at the end.

A plan says what the table will be, and is made without a word to the engine.

## Main definitions

* `CreateTableArgs` — what is asked for.
* `typedColumnType`, `textType`, `columnType` — the type of a column of a dataset.
* `resolveColumns` — the columns of the new table.
* `createTableSql` — the statement.
* `planCreateTable` — the plan; `planCreateTable?` counts widths and digits.
-/

set_option autoImplicit false

namespace SqlDialects

open Text

/-! ## What is asked for -/

/-- What is asked for when a table is created. -/
structure CreateTableArgs where
  table : String
  schema : Option String := none
  explicitColumns : List ColumnRequest := []
  /-- The data that the table is for. -/
  data : Option DataSet := none
  /-- Names of new columns, each with the column that it refers to. -/
  foreignKeys : List (String × Column) := []
  cascade : Bool := false
  /-- A last change to the columns before the statement is written. -/
  adjust : List ColumnRequest → List ColumnRequest := id
  guesser : Guesser := .basic
  /-- The data gives types only, and is not loaded. -/
  createEmpty : Bool := false
  culture : Culture := .invariant
  batchSeparator : String := defaultSeparator
  timeout : UInt32 := defaultTimeout
  /-- The count of rows that guesses rest on; all rows if absent. -/
  sampleRows : Option Nat := none

/-- What a new table will be. -/
structure CreateTablePlan where
  columns : List ColumnRequest
  /-- The type settled for each column of the data, by the name of the column. -/
  inferredTypes : SortedPairs TypeRequest := []
  sql : String
deriving DecidableEq, Repr, Inhabited

/-! ## Types of columns -/

/-- The characters that a value needs as text. -/
def neededWidth (guesser : Guesser) (settings : GuessSettings) : SqlValue → UInt32
  | .text s => paddedWidth settings s.toList
  | value => ((guesser.guess settings value).bind TypeRequest.textWidth).getD 0

/-- Whether a value is a text with characters beyond ASCII. -/
def needsUnicode : SqlValue → Bool
  | .text s => 0 < nonAsciiCount s.toList
  | _ => false

/-- A string that holds every value, of width 1 at least. -/
def textType (guesser : Guesser) (settings : GuessSettings) (values : List SqlValue) :
    TypeRequest :=
  { TypeRequest.string (values.foldl (fun width v => max width (neededWidth guesser settings v)) 1)
    with unicode := values.any needsUnicode }

/-- The bytes that a value takes, if it has bytes at all. -/
def byteCount? : SqlValue → Option Nat
  | .bytes b => some b.length
  | .text s => some s.utf8ByteSize
  | _ => none

/-- A byte array that holds every value, of width 1 at least. -/
def bytesType (values : List SqlValue) : TypeRequest :=
  .byteArray (some (UInt32.ofNat ((values.filterMap byteCount?).foldl max 1)))

/-- Whether all values are integers within the range of a kind. -/
def allInRange (kind : TypeKind) (values : List SqlValue) : Bool :=
  match kind.integerRange with
  | some (least, greatest) =>
    values.all fun v => v.integer?.any fun n => least ≤ n && n ≤ greatest
  | none => false

/-- A numeric kind, widened if it is too narrow for the values. -/
def numericType (kind : TypeKind) (guesser : Guesser) (settings : GuessSettings)
    (values : List SqlValue) : TypeRequest :=
  let values := values.filter fun v => !v.isNull
  if allInRange kind values then .ofKind kind
  else
    match values.foldl (guesser.widen settings) none with
    | some observed =>
      if observed.kind.isNumeric then guesser.finish ((TypeRequest.ofKind kind).widen observed)
      else .ofKind kind
    | none => .ofKind kind

/-- The type of a column of known kind.  The values decide the width of strings and byte arrays, and
whether a numeric kind has to be wider; any other kind stays as it is. -/
def typedColumnType (kind : TypeKind) (guesser : Guesser) (settings : GuessSettings)
    (values : List SqlValue) : TypeRequest :=
  match kind with
  | .string => textType guesser settings values
  | .byteArray => bytesType values
  | kind => if kind.isNumeric then numericType kind guesser settings values else .ofKind kind

/-- The type of a column of a dataset. -/
def columnType (column : DataColumn) (guesser : Guesser) (settings : GuessSettings)
    (values : List SqlValue) : TypeRequest :=
  match column.kind with
  | .text =>
    if column.keepsText then textType guesser settings values
    else (guesser.guessColumn settings values).getD (.string 1)
  | .typed kind => typedColumnType kind guesser settings values
  | .opaqueObject => .ofKind .byteArray

/-! ## Columns -/

namespace CreateTableArgs

/-- The first request for a column of the given name, whatever its case. -/
def explicitIndex (args : CreateTableArgs) (name : String) : Option Nat :=
  args.explicitColumns.findIdx? fun request => sameName request.name name

/-- What guesses depend on. -/
def guessSettings (args : CreateTableArgs) (dialect : Dialect) : GuessSettings :=
  { extraPerNonAscii := dialect.types.extraPerNonAscii, culture := args.culture }

/-- The values of a column that guesses rest on. -/
def sample (args : CreateTableArgs) (data : DataSet) (index : Nat) : List SqlValue :=
  let values := data.columnValues index
  match args.sampleRows with
  | some rows => values.take rows
  | none => values

/-- The column of the new table for a column of the data, and its type. -/
def resolveColumn (args : CreateTableArgs) (dialect : Dialect) (data : DataSet) (index : Nat)
    (column : DataColumn) : Except SqlError (ColumnRequest × TypeRequest) :=
  match (args.explicitIndex column.name).bind fun i => args.explicitColumns[i]? with
  | some request =>
    (request.resolve dialect).map fun r => ({ request with typeRequest := some r }, r)
  | none =>
    let r := columnType column args.guesser (args.guessSettings dialect) (args.sample data index)
    .ok ({ ColumnRequest.ofType column.name r with
      nullable := column.nullable
      isPrimaryKey := data.isPrimaryKey column.name }, r)

/-- The columns of the new table for those of the data from the given place on, each with the name
of the column of the data and the type. -/
def resolveDataColumns (args : CreateTableArgs) (dialect : Dialect) (data : DataSet) :
    (index : Nat) → List DataColumn → Except SqlError (List (ColumnRequest × String × TypeRequest))
  | _, [] => .ok []
  | index, column :: rest => do
    let (request, r) ← args.resolveColumn dialect data index column
    let more ← args.resolveDataColumns dialect data (index + 1) rest
    pure ((request, column.name, r) :: more)

/-- The requests that no column of the data asks for. -/
def unusedRequests (args : CreateTableArgs) (columns : List DataColumn) : List ColumnRequest :=
  let used := columns.filterMap fun column => args.explicitIndex column.name
  args.explicitColumns.zipIdx.filterMap fun (request, i) => if i ∈ used then none else some request

/-- The columns of the new table, and the types settled for the columns of the data. -/
def resolveColumns (args : CreateTableArgs) (dialect : Dialect) :
    Except SqlError (List ColumnRequest × SortedPairs TypeRequest) :=
  match args.data with
  | none => .ok (args.explicitColumns, [])
  | some data => do
    let resolved ← args.resolveDataColumns dialect data 0 data.columns
    pure (resolved.map Prod.fst ++ args.unusedRequests data.columns,
      SortedPairs.ofList (resolved.map Prod.snd))

end CreateTableArgs

/-! ## The statement -/

/-- The definition of a column. -/
def columnLine (dialect : Dialect) (column : ColumnRequest) : Except SqlError String := do
  let sqlType ← column.sqlType dialect
  let name ← dialect.style.wrap column.name
  let sqlType := if column.isAutoIncrement then dialect.autoIncrementType sqlType else sqlType
  let default := match column.default.function? with
    | some function => " default " ++ dialect.style.call function
    | none => ""
  let collation := match column.collation with
    | some collation => " COLLATE " ++ collation
    | none => ""
  let counting := if column.isAutoIncrement then " " ++ dialect.style.autoIncrement else ""
  pure (name ++ " " ++ sqlType ++ default ++ collation ++ " " ++ nullClause column.mayBeNull ++
    counting)

/-- The definition of the primary key, if there is one to be written apart from the columns. -/
def primaryKeyLine (dialect : Dialect) (token : NameToken) (table : String)
    (columns : List ColumnRequest) : Except SqlError (List String) := do
  let key := columns.filter ColumnRequest.isPrimaryKey
  -- a column that counts up says itself that it is the key
  let isInline := dialect.countsUpPrimaryKey && columns.any ColumnRequest.isAutoIncrement
  if key.isEmpty || isInline then pure []
  else
    let wrapped ← key.mapM fun column => dialect.style.wrap column.name
    pure [primaryKeyClause (primaryKeyName token table) wrapped]

/-- The pairs of a foreign key: the quoted names of the new column and of the one that it refers
to. -/
def foreignKeyPairs (dialect : Dialect) (table : String) (columns : List ColumnRequest) :
    List (String × Column) → Except SqlError (List (String × String))
  | [] => .ok []
  | (name, primary) :: rest => do
    match columns.find? fun column => sameName column.name name with
    | none => throw (.invalidArgument (.plannedForeignColumn name table))
    | some column =>
      let foreignName ← dialect.style.wrap column.name
      let primaryName ← primary.wrappedName
      let pairs ← foreignKeyPairs dialect table columns rest
      pure ((foreignName, primaryName) :: pairs)

/-- The definition of the foreign key, if one is asked for. -/
def foreignKeyLine (dialect : Dialect) (token other : NameToken) (args : CreateTableArgs)
    (columns : List ColumnRequest) : Except SqlError (List String) := do
  match args.foreignKeys with
  | [] => pure []
  | (_, first) :: _ =>
    if args.foreignKeys.any fun pair => !pair.2.table.same first.table then
      throw (.invalidArgument (.plannedPrimaryTables args.table))
    let pairs ← foreignKeyPairs dialect args.table columns args.foreignKeys
    let primaryTable ← first.table.qualifiedName
    pure [foreignKeyClause (foreignKeyName token other args.table first.table.name)
      (pairs.map Prod.fst) primaryTable (pairs.map Prod.snd) args.cascade]

/-- The statement that creates the table of the given qualified name. -/
def createTableSql (dialect : Dialect) (tokens : TokenSource) (qualifiedName : String)
    (columns : List ColumnRequest) (args : CreateTableArgs) : Except SqlError String := do
  let columnLines ← columns.mapM (columnLine dialect)
  let primaryKey ← primaryKeyLine dialect (tokens 0) args.table columns
  let foreignKey ← foreignKeyLine dialect (tokens 1) (tokens 2) args columns
  pure ("CREATE TABLE " ++ qualifiedName ++ "(\n" ++
    ",\n".intercalate (columnLines ++ primaryKey ++ foreignKey) ++ "\n)")

/-! ## The plan -/

/-- Refuses data with columns that mean nothing to a database. -/
def checkDataKinds (data : DataSet) : Except SqlError Unit :=
  let refused := data.columns.filter fun column => column.kind == .opaqueObject
  if refused.isEmpty then .ok () else .error (.unsupportedValue (refused.map DataColumn.name))

/-- Checks the name of the table and those of its columns, of which there has to be one at least. -/
def checkPlannedNames (dialect : Dialect) (table : String) (columns : List ColumnRequest) :
    Except SqlError Unit := do
  dialect.style.checkObjectName .table table
  if columns.isEmpty then throw (.invalidArgument (.noColumns table))
  columns.forM fun column => dialect.style.checkObjectName .column column.name

/-- The plan of a new table. -/
def planCreateTable (database : Database) (args : CreateTableArgs) :
    Except SqlError CreateTablePlan := do
  let dialect := database.dialect
  match args.data with
  | some data => checkDataKinds data
  | none => pure ()
  let (resolved, inferredTypes) ← args.resolveColumns dialect
  let columns := args.adjust resolved
  checkPlannedNames dialect args.table columns
  let qualifiedName ← dialect.style.qualifyTable database.name args.schema args.table
  let sql ← createTableSql dialect database.server.tokens qualifiedName columns args
  pure { columns, inferredTypes, sql }

/-! ## Counting

Widths and digits are counted while a plan is made.  The plan is not made if a count is too great
and no error has been found before. -/

/-- The characters that a value needs as text; nothing if they cannot be counted. -/
def neededWidth? (guesser : Guesser) (settings : GuessSettings) : SqlValue → Option UInt32
  | .text s => paddedWidth? settings s.toList
  | value =>
    match guesser.guess settings value with
    | some r => r.textWidth?.map fun width => width.getD 0
    | none => some 0

/-- Whether the widths of all values can be counted. -/
def countsTexts (guesser : Guesser) (settings : GuessSettings) (values : List SqlValue) : Bool :=
  values.all fun v => (neededWidth? guesser settings v).isSome

/-- Whether all counts can be taken on which the type of a column of a dataset rests. -/
def countsColumn (column : DataColumn) (guesser : Guesser) (settings : GuessSettings)
    (values : List SqlValue) : Bool :=
  match column.kind with
  | .text =>
    if column.keepsText then countsTexts guesser settings values else guesser.counts settings values
  | .typed .string => countsTexts guesser settings values
  | .typed kind =>
    let values := values.filter fun v => !v.isNull
    !kind.isNumeric || allInRange kind values || guesser.counts settings values
  | .opaqueObject => true

/-- Takes the counts that a plan rests on, up to the first error that is found. -/
def countPlan (database : Database) (args : CreateTableArgs) : ExceptT SqlError Option Unit := do
  let dialect := database.dialect
  if let some data := args.data then
    checkDataKinds data
    data.columns.zipIdx.forM fun (column, index) => do
      let _ ← args.resolveColumn dialect data index column
      if (args.explicitIndex column.name).isNone then
        ExceptT.lift (guard (countsColumn column args.guesser (args.guessSettings dialect)
          (args.sample data index)))
  let (resolved, _) ← args.resolveColumns dialect
  let columns := args.adjust resolved
  checkPlannedNames dialect args.table columns
  let _ ← dialect.style.qualifyTable database.name args.schema args.table
  columns.forM fun column => do
    let _ ← ExceptT.mk (column.sqlType? dialect)
    let _ ← columnLine dialect column

/-- The plan of a new table; nothing if a count is too great. -/
def planCreateTable? (database : Database) (args : CreateTableArgs) :
    Option (Except SqlError CreateTablePlan) :=
  (countPlan database args).run.map fun _ => planCreateTable database args

end SqlDialects
