import SqlDialects.Dialect.Quotes
import SqlDialects.Identifier

/-!
# How a dialect writes names and queries

A `QueryStyle` is everything that spelling SQL for one engine needs to know, as data: the marks
around names, how names are qualified, the mark of parameters, the way to ask for the first few
rows, and some function names.  The rules that use it are the same for every style.

## Main definitions

* `QueryStyle` — the data.
* `Dialect.style` — the styles of the five dialects.
* `QueryStyle.wrap`, `ensureWrapped` — quoting a simple name.
* `QueryStyle.qualifyTable`, `qualifyColumn` — names with all their parts.
* `QueryStyle.runtimeName` — the simple name of an expression in a result; `runtimeName?` cuts it
  out by its bytes.
-/

set_option autoImplicit false

namespace SqlDialects

open Text

/-! ## The data -/

/-- Which parts a qualified table name has. -/
inductive Qualification where
  /-- Database, schema and table; the schema may be left empty, and a blank database takes the
  separators before it away. -/
  | schemaSlot
  /-- Database, schema and table; the schema has a default and a blank database is left out. -/
  | defaultSchema (schema : String)
  /-- Database and table; a blank database is left out. -/
  | databaseOnly
  /-- The table alone. -/
  | tableOnly
  /-- Database and table, neither of them blank, with the separator of the style between them. -/
  | databaseAlways
deriving DecidableEq, Repr, Inhabited

/-- How a query asks for the first rows only. -/
inductive RowLimit where
  /-- The number follows `word` before the selected columns. -/
  | beforeColumns (word : String)
  /-- The number stands between two texts at the end of the query. -/
  | afterQuery (before after : String)
deriving DecidableEq, Repr, Inhabited

/-- Functions that generated statements call. -/
inductive ScalarFunction where
  | now | newGuid | length
deriving DecidableEq, Repr, Inhabited

/-- How an engine spells names and queries. -/
structure QueryStyle where
  dialect : Dialect
  quotes : Quotes
  /-- The text between the parts of a qualified name. -/
  separator : String := "."
  /-- The character before the name of a parameter. -/
  parameterMark : Char := '@'
  /-- The text between an expression and its alias. -/
  aliasJoin : String := " AS "
  maxDatabaseName : Nat
  maxTableName : Nat
  maxColumnName : Nat
  qualification : Qualification
  rowLimit : RowLimit := .afterQuery "LIMIT " ""
  nowCall : String
  newGuidCall : String
  lengthName : String
  /-- What follows the definition of a column whose values the engine counts up. -/
  autoIncrement : String
deriving DecidableEq, Repr, Inhabited

/-- The style of a dialect. -/
def Dialect.style : Dialect → QueryStyle
  | mssql =>
    { dialect := mssql, quotes := ⟨'[', ']'⟩
      maxDatabaseName := 128, maxTableName := 128, maxColumnName := 128
      qualification := .schemaSlot
      rowLimit := .beforeColumns "TOP "
      nowCall := "GETDATE()", newGuidCall := "NEWID()", lengthName := "LEN"
      autoIncrement := "IDENTITY(1,1)" }
  | mysql =>
    { dialect := mysql, quotes := ⟨'\x60', '\x60'⟩
      maxDatabaseName := 64, maxTableName := 64, maxColumnName := 64
      qualification := .databaseOnly
      nowCall := "now()", newGuidCall := "(uuid())", lengthName := "LENGTH"
      autoIncrement := "AUTO_INCREMENT" }
  | postgres =>
    { dialect := postgres, quotes := ⟨'\x22', '\x22'⟩
      parameterMark := ':'
      maxDatabaseName := 63, maxTableName := 63, maxColumnName := 63
      qualification := .defaultSchema "public"
      nowCall := "now()", newGuidCall := "gen_random_uuid()", lengthName := "length"
      autoIncrement := "GENERATED BY DEFAULT AS IDENTITY" }
  | oracle =>
    { dialect := oracle, quotes := ⟨'\x22', '\x22'⟩
      parameterMark := ':'
      maxDatabaseName := 30, maxTableName := 30, maxColumnName := 30
      qualification := .databaseOnly
      rowLimit := .afterQuery "OFFSET 0 ROWS FETCH NEXT " " ROWS ONLY"
      nowCall := "CURRENT_TIMESTAMP", newGuidCall := "SYS_GUID()", lengthName := "LENGTH"
      autoIncrement := "GENERATED BY DEFAULT ON NULL AS IDENTITY" }
  | sqlite =>
    { dialect := sqlite, quotes := ⟨'\x22', '\x22'⟩
      maxDatabaseName := 18446744073709551615, maxTableName := 18446744073709551615
      maxColumnName := 18446744073709551615
      qualification := .tableOnly
      nowCall := "CURRENT_TIMESTAMP", newGuidCall := "(lower(hex(randomblob(16))))"
      lengthName := "length"
      autoIncrement := "PRIMARY KEY AUTOINCREMENT" }

namespace QueryStyle

/-- The schema of a table for which none is given. -/
def defaultSchema? (style : QueryStyle) : Option String :=
  match style.qualification with
  | .schemaSlot => some "dbo"
  | .defaultSchema schema => some schema
  | _ => none

/-- How a function is called; of the length function this is the name alone. -/
def call (style : QueryStyle) : ScalarFunction → String
  | .now => style.nowCall
  | .newGuid => style.newGuidCall
  | .length => style.lengthName

/-! ## Simple names -/

/-- Checks the name of an object against the limits of the style. -/
def checkObjectName (style : QueryStyle) (object : ObjectKind) (name : String) :
    Except SqlError Unit :=
  let limit := match object with
    | .database => style.maxDatabaseName
    | .table => style.maxTableName
    | .column => style.maxColumnName
  (checkName object name limit).mapError .naming

/-- The name between quotes.  A name that holds the separator is refused. -/
def wrap (style : QueryStyle) (name : String) : Except SqlError String :=
  match checkIdentifier name with
  | .error fault => .error (.naming fault)
  | .ok () =>
    if contains style.separator.toList name.toList then
      .error (.naming (.separatorInside name style.separator))
    else .ok (String.ofList (style.quotes.quote name.toList))

/-- The name between quotes, where a name that looks quoted is left as it is. -/
def ensureWrapped (style : QueryStyle) (name : String) : Except SqlError String :=
  let t := trimmed name
  if style.quotes.looksQuoted t.toList then .ok t else style.wrap t

/-- The name without quotes. -/
def unquote (style : QueryStyle) (text : String) : String :=
  String.ofList (style.quotes.unquote text.toList)

/-- The name without quotes, cut out of the text by its bytes; nothing if that cannot be done. -/
def unquote? (style : QueryStyle) (text : String) : Option String :=
  (style.quotes.unquote? text.toList).map String.ofList

/-- The alias of an expression, as it is written. -/
def alias? (style : QueryStyle) (text : String) : Option String :=
  (style.quotes.trailingAlias text.toList).map String.ofList

/-- What the simple name of an expression is read from: its alias, or else the last part of a
qualified name. -/
def namePart (style : QueryStyle) (text : String) : Chars :=
  match style.quotes.trailingAlias text.toList with
  | some name => name
  | none => style.quotes.lastSegment style.separator.toList (trim text.toList)

/-- The simple name that an expression has in a result. -/
def runtimeName (style : QueryStyle) (text : String) : String :=
  String.ofList (style.quotes.unquote (style.namePart text))

/-- The same, cut out of the text by its bytes; nothing if that cannot be done. -/
def runtimeName? (style : QueryStyle) (text : String) : Option String :=
  (style.quotes.unquote? (style.namePart text)).map String.ofList

/-! ## Qualified names -/

/-- A schema that is there and not blank, without white space around it. -/
def givenSchema? (schema : Option String) : Option String :=
  (schema.map trimmed).filter fun name => !name.isEmpty

/-- The name of a table with all its parts. -/
def qualifyTable (style : QueryStyle) (database : String) (schema : Option String)
    (table : String) : Except SqlError String := do
  match style.qualification with
  | .schemaSlot =>
    let table ← style.ensureWrapped table
    let schema ← match givenSchema? schema with
      | some name => style.ensureWrapped name
      | none => pure ""
    if isBlankText database then
      pure (if schema.isEmpty then table else schema ++ "." ++ table)
    else
      let database ← style.ensureWrapped database
      pure (database ++ "." ++ schema ++ "." ++ table)
  | .defaultSchema fallback =>
    let schema ← style.ensureWrapped ((givenSchema? schema).getD fallback)
    let table ← style.ensureWrapped table
    if isBlankText database then pure (schema ++ "." ++ table)
    else
      let database ← style.ensureWrapped database
      pure (database ++ "." ++ schema ++ "." ++ table)
  | .databaseOnly =>
    let table ← style.ensureWrapped table
    if isBlankText database then pure table
    else
      let database ← style.ensureWrapped database
      pure (database ++ "." ++ table)
  | .tableOnly => style.ensureWrapped table
  | .databaseAlways =>
    let database ← style.ensureWrapped database
    let table ← style.ensureWrapped table
    pure (database ++ style.separator ++ table)

/-- The name of a column with all its parts. -/
def qualifyColumn (style : QueryStyle) (database : String) (schema : Option String)
    (table column : String) : Except SqlError String := do
  let table ← style.qualifyTable database schema table
  let column ← style.ensureWrapped column
  pure (table ++ style.separator ++ column)

/-- The name of a column of a table-valued function, which belongs to no database. -/
def qualifyFunctionColumn (style : QueryStyle) (function column : String) :
    Except SqlError String := do
  let function ← style.ensureWrapped function
  let column ← style.ensureWrapped column
  pure (function ++ style.separator ++ column)

/-! ## Queries -/

/-- The clause that asks for the first `n` rows. -/
def topClause (style : QueryStyle) (n : Nat) : String :=
  match style.rowLimit with
  | .beforeColumns word => word ++ toString n
  | .afterQuery before after => before ++ toString n ++ after

/-- The query for the first `n` rows of a table. -/
def selectTop (style : QueryStyle) (table columns : String) (n : Nat) : String :=
  match style.rowLimit with
  | .beforeColumns _ => "SELECT " ++ style.topClause n ++ " " ++ columns ++ " FROM " ++ table
  | .afterQuery _ _ => "SELECT " ++ columns ++ " FROM " ++ table ++ " " ++ style.topClause n

end QueryStyle

end SqlDialects
