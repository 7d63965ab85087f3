import SqlDialects.Dialect.Basic
import SqlDialects.TypeName.Canonical
import SqlDialects.TypeRequest

/-!
# Families of type names

A type name belongs to a family if its canonical spelling fits one of the spellings of that family.
Families may overlap, and then the earlier one decides: a dialect that spells truth values as
numbers is asked about truth values first.

## Main definitions

* `TypeFamily` — the families, in the order in which they are asked.
* `Dialect.recognises` — whether a canonical name belongs to a family.
* `Dialect.kindOf` — the kind of a type name.
-/

set_option autoImplicit false

namespace SqlDialects

open Text

/-- The families of type names. -/
inductive TypeFamily where
  | bool | byte | byteArray | smallInt | int | long | floatingPoint | decimal | date | time | guid
  | string
deriving DecidableEq, Repr, Inhabited

namespace TypeFamily

/-- All families, in the order in which they are asked. -/
def all : List TypeFamily :=
  [bool, byte, byteArray, smallInt, int, long, floatingPoint, decimal, date, time, guid, string]

/-- The name of the family. -/
def name : TypeFamily → String
  | bool => "bool"
  | byte => "byte"
  | byteArray => "byte_array"
  | smallInt => "small_int"
  | int => "int"
  | long => "long"
  | floatingPoint => "floating_point"
  | decimal => "decimal"
  | date => "date"
  | time => "time"
  | guid => "guid"
  | string => "string"

/-- The kind that the types of a family have. -/
def kind : TypeFamily → TypeKind
  | bool => .bool
  | byte => .byte
  | byteArray => .byteArray
  | smallInt => .int16
  | int => .int32
  | long => .int64
  | floatingPoint | decimal => .decimal
  | date => .dateTime
  | time => .timeSpan
  | guid => .guid
  | string => .string

end TypeFamily

/-! ## Spellings -/

/-- One of the words, with nothing after it. -/
def isOneOf (names : List String) (t : Chars) : Bool := names.any fun name => name.toList == t

/-- One of the words, ending there, whatever follows. -/
def startsWithOneOf (names : List String) (t : Chars) : Bool :=
  names.any fun name => startsWithWord name.toList t

/-- One of the words, then a size in parentheses or none, then one of the endings. -/
def isSized (names endings : List String) (t : Chars) : Bool :=
  names.any fun name =>
    match after? name.toList t with
    | some rest => isOneOf endings ((dropSize? rest).getD rest)
    | none => false

/-- One of the words, sized or not, perhaps unsigned. -/
def isIntegerName (names : List String) (t : Chars) : Bool := isSized names ["", " unsigned"] t

/-- Names of character types: those that speak of characters, text or documents, and a few more. -/
def isCharacterName (t : Chars) : Bool :=
  ["char", "text", "clob", "xml", "json"].any (fun part => contains part.toList t) ||
    startsWithOneOf ["enum", "set"] t || isOneOf ["string"] t

/-- The spellings that a family has in every dialect that has none of its own. -/
def commonlyRecognises (family : TypeFamily) (t : Chars) : Bool :=
  match family with
  | .bool => isOneOf ["bit", "bool", "boolean", "bit(1)", "bool(1)", "boolean(1)"] t
  | .byte => isIntegerName ["tinyint"] t
  | .byteArray =>
    startsWithOneOf ["binary", "varbinary", "image", "bytea", "blob", "tinyblob", "mediumblob",
      "longblob", "raw", "long raw"] t
  | .smallInt => isIntegerName ["smallint", "int2"] t
  | .int => isIntegerName ["int", "integer", "int4", "mediumint"] t
  | .long => isIntegerName ["bigint", "int8"] t
  | .floatingPoint =>
    isSized ["float", "real", "double", "double precision", "float4", "float8", "binary_float",
      "binary_double"] [""] t
  | .decimal =>
    startsWithOneOf ["decimal", "numeric", "number", "dec", "money", "smallmoney"] t
  | .date =>
    startsWithOneOf ["date", "datetime", "datetime2", "smalldatetime", "datetimeoffset",
      "timestamp"] t
  | .time => isSized ["time"] ["", " without time zone"] t || startsWithOneOf ["interval"] t
  | .guid => isOneOf ["uniqueidentifier", "uuid"] t
  | .string => isCharacterName t

/-! ## Numbers as integers -/

/-- The precision of a number declared without digits after the point. -/
def wholeNumberPrecision? (t : Chars) : Option Nat :=
  ["number", "numeric", "decimal"].findSome? fun name => do
    let (digits, rest) ← (after? (name ++ "(").toList t).bind takeNumeral
    let closed := match rest with
      | ',' :: rest => trimStart rest == ['0', ')']
      | rest => rest == [')']
    if closed then (readNat digits).filter (· ≤ 4294967295) else none

/-- The kind of whole numbers that stands behind a precision, in a dialect that declares integers
as numbers. -/
def kindOfPrecision? (precision : Nat) : Option TypeKind :=
  if precision = 1 then some .bool
  else if precision = 3 then some .byte
  else if precision = 5 then some .int16
  else if precision = 10 ∨ precision = 38 then some .int32
  else if precision = 19 then some .int64
  else none

/-- The kind of a name that declares whole numbers of a certain precision. -/
def wholeNumberKind? (t : Chars) : Option TypeKind :=
  (wholeNumberPrecision? t).bind kindOfPrecision?

/-! ## Dialects -/

/-- Whether a canonical name belongs to a family. -/
def Dialect.recognises (dialect : Dialect) (family : TypeFamily) (t : Chars) : Bool :=
  match dialect, family with
  | mysql, .bool => isOneOf ["bit", "bit(1)", "bool", "boolean", "tinyint(1)"] t
  | oracle, .bool => wholeNumberKind? t == some .bool
  | oracle, .byte => wholeNumberKind? t == some .byte
  | oracle, .smallInt => wholeNumberKind? t == some .int16
  | oracle, .int => isOneOf ["int", "integer", "number(*,0)"] t || wholeNumberKind? t == some .int32
  | oracle, .long => wholeNumberKind? t == some .int64
  | oracle, .string =>
    isOneOf ["long"] t || "varchar2".toList.isPrefixOf t || "nvarchar2".toList.isPrefixOf t ||
      isOneOf ["char", "nchar", "clob", "nclob", "varchar", "nvarchar"] (t.takeWhile (· != '('))
  | _, family => commonlyRecognises family t

/-- The first family that a canonical name belongs to. -/
def Dialect.familyOf (dialect : Dialect) (t : Chars) : Option TypeFamily :=
  TypeFamily.all.find? fun family => dialect.recognises family t

/-- The kind of a type name, if the dialect knows it. -/
def Dialect.kindOf (dialect : Dialect) (sqlType : String) : Option TypeKind :=
  (dialect.familyOf (canonicalName sqlType)).map TypeFamily.kind

/-- Whether the name is that of a string type for unicode text.  Some dialects make no such
difference. -/
def Dialect.isUnicode (dialect : Dialect) (sqlType : String) : Bool :=
  match dialect with
  | mysql | postgres => false
  | _ => (canonicalName sqlType).head? == some 'n'

/-- Whether a canonical name is that of a string type without a width. -/
def isUnlimitedString (t : Chars) : Bool :=
  isOneOf ["text", "ntext", "tinytext", "mediumtext", "longtext", "clob", "nclob", "xml", "json",
    "jsonb", "long"] t

end SqlDialects
