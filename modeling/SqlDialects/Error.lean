import SqlDialects.CreateTable.Report
import SqlDialects.Dialect.Basic
import SqlDialects.Text.Quoted

/-!
# Errors

Every refusal of this library is a value that says what was wrong, and its text is a function of
that value.  Faults that an engine or a caller reports in words of its own are kept as they are, by
the constructors named `reported`.

## Main definitions

* `NamingFault`, `ConfigFault`, `ResizeFault`, `ArgumentFault` — the causes, by area.
* `SqlError` — errors, which may wrap other errors.
* `SqlError.message`, `SqlError.details` — the text of an error, without and with its causes.
* `SqlError.adapterFault?` — the fault of the engine behind an error.
-/

set_option autoImplicit false

namespace SqlDialects

open Text

/-! ## Faults -/

/-- What a name is the name of. -/
inductive ObjectKind where
  | database | table | column
deriving DecidableEq, Repr, Inhabited

/-- The word for the kind of object at the start of a sentence. -/
def ObjectKind.label : ObjectKind → String
  | .database => "Database"
  | .table => "Table"
  | .column => "Column"

/-- Why a name is refused. -/
inductive NamingFault where
  | blank
  /-- The name holds a null character. -/
  | nullCharacter (name : String)
  /-- The name of an object is no identifier at all. -/
  | noIdentifier (object : ObjectKind) (reason : NamingFault)
  | tooLong (object : ObjectKind) (name : String) (length limit : Nat)
  | illegalCharacter (object : ObjectKind) (name : String) (character : Char)
  /-- The name holds the text that separates names. -/
  | separatorInside (name separator : String)
  | reported (text : String)
deriving DecidableEq, Repr, Inhabited

/-- Why a setting is refused. -/
inductive ConfigFault where
  | unknownDialect (name : String)
  /-- No dialect is registered under the name. -/
  | unregisteredDialect (name : String)
  | unknownCulture (name : String)
  /-- An alias written for a name does not read back as the name. -/
  | aliasNotRecovered (dialect : Dialect) (name written recovered : String)
  | separatorMissing
  | separatorBlank (separator : String)
  /-- A limit that has to be positive is zero. -/
  | zeroLimit (setting : String)
  | keywordDialect (index : Nat) (dialect : String)
  | keywordMissing (index : Nat)
  /-- A connection keyword that cannot be the name of a setting of the engine. -/
  | connectionKeyword (name : String)
  | reported (text : String)
deriving DecidableEq, Repr, Inhabited

/-- Why a column is not resized. -/
inductive ResizeFault where
  | notString (column sqlType : String)
  | narrower (column : String) (current requested : Int)
  | notDecimal (column sqlType : String)
  /-- The requested size has fewer digits on one side. -/
  | losesDigits (column : String) (current requested : DecimalSize)
  | reported (text : String)
deriving DecidableEq, Repr, Inhabited

/-- Why an argument is refused. -/
inductive ArgumentFault where
  | rowLength (given : Nat) (dataset : String) (columns : Nat)
  | columnLength (column : String) (given : Nat) (dataset : String) (rows : Nat)
  | missingType (column : String)
  | noSuchColumn (column table : String)
  | noKeyColumns (table : String)
  | foreignTable (column table : String)
  | noKeyPairs
  | severalPrimaryTables (tables : List String)
  | noColumns (table : String)
  | plannedPrimaryTables (table : String)
  | plannedForeignColumn (column table : String)
  | ambiguousColumn (column table : String)
  | columnTakenTwice (column table : String)
  | reported (text : String)
deriving DecidableEq, Repr, Inhabited

/-- The engine's own classification of a fault. -/
inductive FaultCode where
  | busy | locked | constraint
deriving DecidableEq, Repr, Inhabited

/-- A fault of the engine or of the way to it. -/
structure AdapterFault where
  text : String
  code : Option FaultCode := none
deriving DecidableEq, Repr, Inhabited

/-! ## Errors -/

/-- An error of this library. -/
inductive SqlError where
  | config (fault : ConfigFault)
  | naming (fault : NamingFault)
  /-- A column of the input has no match in the destination. -/
  | columnMapping (column table : String)
  | resize (fault : ResizeFault)
  /-- The statement that alters a column failed. -/
  | alterFailed (sql : String) (cause : SqlError)
  /-- Columns whose values have no SQL type. -/
  | unsupportedValue (columns : List String)
  /-- A type name that means nothing in the dialect. -/
  | unknownType (sqlType : String)
  | invalidArgument (fault : ArgumentFault)
  | notSupported (dialect operation : String)
  /-- A bulk insert failed, and the row at fault has been found. -/
  | bulkInsertFailed (finding : String) (cause : SqlError)
  /-- A bulk insert failed, and so did the search for the row at fault. -/
  | bulkDiagnosisFailed (cause diagnosis : SqlError)
  /-- The table exists but its data could not be loaded. -/
  | uploadAfterCreateFailed (report : CreateTableReport) (cause : SqlError)
  | adapter (fault : AdapterFault)
  /-- A file could not be read. -/
  | unreadableFile
  | malformedYaml
  | malformedJson
deriving Repr, Inhabited

/-- The dialect cannot express the operation. -/
def Dialect.refuses (dialect : Dialect) (operation : String) : SqlError :=
  .notSupported dialect.name operation

/-! ## Texts -/

/-- The explanation of a naming fault. -/
def NamingFault.text : NamingFault → String
  | blank => "Identifier cannot be blank"
  | nullCharacter name =>
    "SECURITY: Identifier contains null byte (possible injection attempt): " ++ quoted name
  | noIdentifier object reason =>
    object.label ++ " name is invalid: Naming error: " ++ reason.text
  | tooLong object name length limit =>
    object.label ++ " name " ++ quoted name ++ " is " ++ toString length ++
      " characters long, the maximum is " ++ toString limit
  | illegalCharacter object name character =>
    object.label ++ " name " ++ quoted name ++ " contains illegal character '" ++
      String.singleton character ++ "'"
  | separatorInside name separator =>
    "Name " ++ quoted name ++ " contains the separator '" ++ separator ++ "' and cannot be wrapped"
  | reported text => text

/-- The explanation of a configuration fault. -/
def ConfigFault.text : ConfigFault → String
  | unknownDialect name =>
    "Unknown database type: '" ++ name ++
      "'. Supported types: mssql, mysql, postgres, oracle, sqlite"
  | unregisteredDialect name => "Unknown database dialect: " ++ name
  | unknownCulture name =>
    "Unknown culture: '" ++ name ++ "'. Supported cultures: invariant, en-US, en-GB"
  | aliasNotRecovered dialect name written recovered =>
    dialect.name ++ " alias contract violated: alias " ++ quoted name ++ " generated " ++
      quoted written ++ " which parsed back as " ++ quoted recovered
  | separatorMissing => "create_table.batch_separator is required"
  | separatorBlank separator =>
    "create_table.batch_separator must not contain whitespace, got " ++ quoted separator
  | zeroLimit setting => setting ++ " must be at least 1"
  | keywordDialect index dialect =>
    "keywords[" ++ toString index ++ "].dialect '" ++ dialect ++ "' is not a known dialect"
  | keywordMissing index => "keywords[" ++ toString index ++ "].keyword is required"
  | connectionKeyword name => "Invalid SQLite connection keyword '" ++ name ++ "'"
  | reported text => text

/-- The explanation of a resize fault. -/
def ResizeFault.text : ResizeFault → String
  | notString column sqlType =>
    "Column " ++ column ++ " is of type " ++ sqlType ++ ", which is not a string"
  | narrower column current requested =>
    "Cannot resize column " ++ column ++ " from " ++ toString current ++ " to " ++
      toString requested ++ " because the new size is smaller"
  | notDecimal column sqlType =>
    "Column " ++ column ++ " is of type " ++ sqlType ++ ", which is not a decimal"
  | losesDigits column current requested =>
    "Cannot resize column " ++ column ++ " from decimal" ++ current.render ++ " to decimal" ++
      requested.render ++ " because it would lose digits"
  | reported text => text

/-- The explanation of an argument fault. -/
def ArgumentFault.text : ArgumentFault → String
  | rowLength given dataset columns =>
    "Row has " ++ toString given ++ " values but dataset '" ++ dataset ++ "' has " ++
      toString columns ++ " columns"
  | columnLength column given dataset rows =>
    "Column '" ++ column ++ "' has " ++ toString given ++ " values but dataset '" ++ dataset ++
      "' has " ++ toString rows ++ " rows"
  | missingType column =>
    "Column request '" ++ column ++ "' has neither a type request nor an explicit type"
  | noSuchColumn column table => "Could not find column '" ++ column ++ "' in table " ++ table
  | noKeyColumns table => "No columns given for the primary key of " ++ table
  | foreignTable column table => "Column " ++ column ++ " does not belong to table " ++ table
  | noKeyPairs => "A foreign key needs at least one column pair"
  | severalPrimaryTables tables =>
    "Foreign key columns reference more than one primary table: " ++ ", ".intercalate tables
  | noColumns table => "No columns to create for table " ++ table
  | plannedPrimaryTables table =>
    "Foreign keys of " ++ table ++ " reference more than one primary table"
  | plannedForeignColumn column table =>
    "Foreign key column '" ++ column ++ "' is not a column of " ++ table
  | ambiguousColumn column table =>
    "Column '" ++ column ++ "' matches several columns of " ++ table ++
      " that differ only by case"
  | columnTakenTwice column table =>
    "More than one input column maps to column '" ++ column ++ "' of " ++ table
  | reported text => text

/-- The name of the kind of an error. -/
def SqlError.kindName : SqlError → String
  | config _ => "Config"
  | naming _ => "Naming"
  | columnMapping _ _ => "ColumnMapping"
  | resize _ => "Resize"
  | alterFailed _ _ => "AlterFailed"
  | unsupportedValue _ => "UnsupportedValue"
  | unknownType _ => "UnknownType"
  | invalidArgument _ => "InvalidArgument"
  | notSupported _ _ => "NotSupported"
  | bulkInsertFailed _ _ => "BulkInsertFailed"
  | bulkDiagnosisFailed _ _ => "BulkInsertDiagnosticFailed"
  | uploadAfterCreateFailed _ _ => "UploadAfterCreateFailed"
  | adapter _ => "Adapter"
  | unreadableFile => "Io"
  | malformedYaml => "Yaml"
  | malformedJson => "Json"

/-- The text of an error. -/
def SqlError.message : SqlError → String
  | config fault => "Configuration error: " ++ fault.text
  | naming fault => "Naming error: " ++ fault.text
  | columnMapping column table =>
    "Column '" ++ column ++ "' could not be found in destination table " ++ table
  | resize fault => "Resize error: " ++ fault.text
  | alterFailed sql _ => "Failed to alter column using SQL: " ++ sql
  | unsupportedValue columns =>
    "Cannot create columns for untyped values: " ++ ", ".intercalate columns
  | unknownType sqlType => "Unknown proprietary type '" ++ sqlType ++ "'"
  | invalidArgument fault => "Invalid argument: " ++ fault.text
  | notSupported dialect operation => operation ++ " is not supported by " ++ dialect
  | bulkInsertFailed finding _ => "Bulk insert failed: " ++ finding
  | bulkDiagnosisFailed cause diagnosis =>
    "Bulk insert failed: " ++ cause.message ++ "; diagnostic retry also failed: " ++
      diagnosis.message
  | uploadAfterCreateFailed report cause =>
    "Table " ++ report.table ++ " was created but loading its data failed: " ++ cause.message
  | adapter fault => "Adapter error: " ++ fault.text
  | unreadableFile => "IO error"
  | malformedYaml => "YAML error"
  | malformedJson => "JSON error"

/-! ## Causes -/

/-- The texts of the causes of an error, nearest first.  The two errors of a failed diagnosis are
part of its own text and not listed again. -/
def SqlError.causes : SqlError → List String
  | alterFailed _ cause | bulkInsertFailed _ cause | uploadAfterCreateFailed _ cause =>
    cause.message :: cause.causes
  | adapter fault => [fault.text]
  | _ => []

/-- The text of an error followed by its numbered causes. -/
def SqlError.details (e : SqlError) : String :=
  "Error: " ++ e.message ++ "\n" ++
    String.join (e.causes.zipIdx.map fun (text, i) =>
      "\nCaused by:\n  " ++ toString (i + 1) ++ ": " ++ text)

/-- The fault of the engine that an error is or wraps. -/
def SqlError.adapterFault? : SqlError → Option AdapterFault
  | adapter fault => some fault
  | alterFailed _ cause | bulkInsertFailed _ cause | uploadAfterCreateFailed _ cause
  | bulkDiagnosisFailed cause _ => cause.adapterFault?
  | _ => none

end SqlDialects
