import SqlDialects.Error
import SqlDialects.TypeName.Declare
import SqlDialects.TypeName.Family

/-!
# Reading types

A type name is read back as a request: its kind, and what its qualifier says about its width or its
digits.

## Main definitions

* `Dialect.stringLength` — the declared length of a string type.
* `Dialect.decimalSizeOf` — the digits of a fixed-point type.
* `Dialect.request` — the request that a type name answers.
* `Dialect.normalize` — the request that comes back after a request has been declared.
-/

set_option autoImplicit false

namespace SqlDialects

open Text

/-! ## Qualifiers -/

/-- The length of a string type without a limit. -/
def unlimitedLength : Int := 2147483647

/-- The length of a type that is no string. -/
def notAString : Int := -1

namespace Dialect

/-- The declared length of a string type. -/
def stringLength (dialect : Dialect) (sqlType : String) : Int :=
  if dialect.kindOf sqlType ≠ some .string then notAString
  else
    let t := canonicalName sqlType
    let qualifier := (firstQualifier t).getD {}
    if isUnlimitedString t || qualifier.isMax then unlimitedLength
    else
      match qualifier.first with
      | some n => n
      | none => if isOneOf ["char", "nchar", "character"] t then 1 else unlimitedLength

/-- The declared width of a byte array type. -/
def byteWidth (sqlType : String) : Option UInt32 :=
  let qualifier := qualifierOf sqlType
  if qualifier.isMax then none else qualifier.first.map DecimalSize.clamp

/-- The digits of a fixed-point type. -/
def decimalSizeOf (dialect : Dialect) (sqlType : String) : Option DecimalSize :=
  if dialect.recognises .decimal (canonicalName sqlType) then
    let qualifier := qualifierOf sqlType
    qualifier.first.map fun precision =>
      DecimalSize.ofPrecisionScale precision (qualifier.second.getD 0)
  else none

/-! ## Requests -/

/-- The width of a string type; a length of 32 bits or more loses its upper bits. -/
def stringWidth (dialect : Dialect) (sqlType : String) : Option UInt32 :=
  let length := dialect.stringLength sqlType
  if length = unlimitedLength ∨ length < 0 then none
  else some (UInt32.ofNat (length.toNat % 4294967296))

/-- The request that a type name answers. -/
def request (dialect : Dialect) (sqlType : String) : Except SqlError TypeRequest :=
  match dialect.kindOf sqlType with
  | none => .error (.unknownType sqlType)
  | some .string =>
    .ok { kind := .string, width := dialect.stringWidth sqlType
          unicode := dialect.isUnicode sqlType }
  | some .byteArray => .ok { kind := .byteArray, width := byteWidth sqlType }
  | some .decimal => .ok { kind := .decimal, decimalSize := dialect.decimalSizeOf sqlType }
  | some kind => .ok { kind }

/-! ## What comes back -/

/-- What every dialect keeps of a request: the width of a string up to the greatest inline width,
and the size of a decimal, which has ten digits on either side if none is given. -/
def normalizeCommon (dialect : Dialect) (r : TypeRequest) : TypeRequest :=
  match r.kind with
  | .string =>
    { kind := .string, width := dialect.types.inlineWidth r.width r.unicode, unicode := r.unicode }
  | .decimal =>
    { kind := .decimal
      decimalSize := some ((r.decimalSize.filter fun d => !d.isEmpty).getD
        (DecimalSize.ofDigits 10 10)) }
  | kind => { kind }

/-- What a dialect keeps of a request. -/
def normalize (dialect : Dialect) (r : TypeRequest) : TypeRequest :=
  match dialect, r.kind with
  | mssql, .byteArray =>
    { kind := .byteArray, width := (r.width.filter (· ≤ 8000)).map fun w => max w 1 }
  | mysql, .guid | oracle, .guid => .string 36
  | postgres, .byte => { kind := .int16 }
  | oracle, .decimal =>
    match (r.decimalSize.filter fun d => d.scale == 0).bind fun d =>
        kindOfPrecision? d.precision.toNat with
    | some kind => { kind }
    | none => dialect.normalizeCommon r
  | mysql, _ | postgres, _ => { dialect.normalizeCommon r with unicode := false }
  | _, _ => dialect.normalizeCommon r

/-- What a dialect keeps of a request; nothing if the digits of a decimal cannot be counted. -/
def normalize? (dialect : Dialect) (r : TypeRequest) : Option TypeRequest := do
  if r.kind = .decimal then
    if let some d := r.decimalSize then let _ ← d.isEmpty?
  return dialect.normalize r

end Dialect

end SqlDialects
