import SqlDialects.Dialect.Basic
import SqlDialects.TypeRequest

/-!
# Declaring types

Every request has a type in every dialect: the narrowest one that holds what is asked for.  Strings
beyond the greatest width that a dialect declares inline become text of unlimited width.

## Main definitions

* `TypeStyle` — the type names of a dialect.
* `Dialect.declare` — the type name for a request; `Dialect.declare?` counts its digits.
-/

set_option autoImplicit false

namespace SqlDialects

/-! ## Type names -/

/-- How byte arrays are declared. -/
inductive ByteStyle where
  /-- One name for all widths. -/
  | single (name : String)
  /-- A name with a width up to a limit, and another name for anything longer. -/
  | sized (name : String) (limit : UInt32) (unlimited : String)
deriving DecidableEq, Repr, Inhabited

/-- The type names of a dialect. -/
structure TypeStyle where
  boolName : String := "bit"
  byteName : String := "tinyint"
  smallName : String := "smallint"
  intName : String := "int"
  longName : String := "bigint"
  /-- The name before precision and scale. -/
  decimalName : String := "decimal"
  dateTimeName : String := "datetime"
  timeName : String := "time"
  /-- The names of strings before their width, plain and unicode. -/
  stringName : String := "varchar"
  unicodeName : String := "nvarchar"
  /-- The names of strings of unlimited width, plain and unicode. -/
  textName : String
  unicodeTextName : String
  bytes : ByteStyle
  guidName : String
  /-- The greatest widths that are declared inline, plain and unicode. -/
  maxString : UInt32
  maxUnicodeString : UInt32
  /-- The width to add for each character beyond ASCII. -/
  extraPerNonAscii : UInt32 := 0
deriving DecidableEq, Repr, Inhabited

/-- The type names of the dialects. -/
def Dialect.types : Dialect → TypeStyle
  | mssql =>
    { dateTimeName := "datetime2"
      textName := "varchar(max)", unicodeTextName := "nvarchar(max)"
      bytes := .sized "varbinary" 8000 "varbinary(max)"
      guidName := "uniqueidentifier"
      maxString := 8000, maxUnicodeString := 4000 }
  | mysql =>
    { unicodeName := "varchar"
      textName := "longtext", unicodeTextName := "longtext"
      bytes := .single "longblob"
      guidName := "char(36)"
      maxString := 4000, maxUnicodeString := 4000 }
  | postgres =>
    { boolName := "boolean", byteName := "smallint", dateTimeName := "timestamp"
      unicodeName := "varchar"
      textName := "text", unicodeTextName := "text"
      bytes := .single "bytea"
      guidName := "uuid"
      maxString := 10485760, maxUnicodeString := 10485760 }
  | oracle =>
    { boolName := "number(1)", byteName := "number(3)", smallName := "number(5)"
      intName := "number(10)", longName := "number(19)", decimalName := "number"
      dateTimeName := "date", timeName := "interval day to second"
      stringName := "varchar2", unicodeName := "nvarchar2"
      textName := "clob", unicodeTextName := "nclob"
      bytes := .single "blob"
      guidName := "varchar2(36)"
      maxString := 4000, maxUnicodeString := 2000
      extraPerNonAscii := 2 }
  | sqlite =>
    { boolName := "boolean"
      textName := "text", unicodeTextName := "ntext"
      bytes := .single "blob"
      guidName := "uniqueidentifier"
      maxString := 8000, maxUnicodeString := 8000 }

namespace TypeStyle

/-- The greatest width that is declared inline. -/
def ceiling (types : TypeStyle) (unicode : Bool) : UInt32 :=
  if unicode then types.maxUnicodeString else types.maxString

/-- A width that is declared inline is at least 1; any other is unlimited. -/
def inlineWidth (types : TypeStyle) (width : Option UInt32) (unicode : Bool) : Option UInt32 :=
  (width.filter fun w => w ≤ types.ceiling unicode).map fun w => max w 1

/-! ## Declaring -/

/-- A name with a width. -/
def withWidth (name : String) (width : UInt32) : String :=
  name ++ "(" ++ toString width.toNat ++ ")"

/-- A decimal type; without a size it gets ten digits on either side. -/
def declareDecimal (types : TypeStyle) (size : Option DecimalSize) : String :=
  match size.filter fun d => !d.isEmpty with
  | some d => types.decimalName ++ d.render
  | none => types.decimalName ++ "(20,10)"

/-- A decimal type; nothing if its digits cannot be counted. -/
def declareDecimal? (types : TypeStyle) (size : Option DecimalSize) : Option String :=
  match size with
  | some d => do
    if ← d.isEmpty? then return types.decimalName ++ "(20,10)"
    return types.decimalName ++ (← d.render?)
  | none => some (types.decimalName ++ "(20,10)")

/-- A string type. -/
def declareString (types : TypeStyle) (width : Option UInt32) (unicode : Bool) : String :=
  match types.inlineWidth width unicode with
  | some w => withWidth (if unicode then types.unicodeName else types.stringName) w
  | none => if unicode then types.unicodeTextName else types.textName

/-- A byte array type. -/
def declareBytes (types : TypeStyle) (width : Option UInt32) : String :=
  match types.bytes with
  | .single name => name
  | .sized name limit unlimited =>
    match width.filter (· ≤ limit) with
    | some w => withWidth name (max w 1)
    | none => unlimited

/-- The type name for a request. -/
def declare (types : TypeStyle) (r : TypeRequest) : String :=
  match r.kind with
  | .bool => types.boolName
  | .byte => types.byteName
  | .int16 => types.smallName
  | .int32 => types.intName
  | .int64 => types.longName
  | .decimal => types.declareDecimal r.decimalSize
  | .dateTime => types.dateTimeName
  | .timeSpan => types.timeName
  | .string => types.declareString r.width r.unicode
  | .byteArray => types.declareBytes r.width
  | .guid => types.guidName

/-- The type name for a request; nothing if the digits of a decimal cannot be counted. -/
def declare? (types : TypeStyle) (r : TypeRequest) : Option String :=
  if r.kind = .decimal then types.declareDecimal? r.decimalSize else some (types.declare r)

end TypeStyle

/-- The type name for a request. -/
def Dialect.declare (dialect : Dialect) (r : TypeRequest) : String := dialect.types.declare r

/-- The type name for a request; nothing if the digits of a decimal cannot be counted. -/
def Dialect.declare? (dialect : Dialect) (r : TypeRequest) : Option String :=
  dialect.types.declare? r

end SqlDialects
