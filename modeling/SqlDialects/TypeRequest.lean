import SqlDialects.DecimalSize

/-!
# Type requests

A `TypeRequest` asks for a column type that is able to hold certain values, without naming the type
of any particular engine: a kind, and where the kind has them a width, a decimal size and the wish
for unicode text.

## Main definitions

* `TypeKind` — the kinds of values a column may hold.
* `TypeRequest.widen` — a request that admits what either of two requests admits.
* `TypeRequest.textWidth` — the width the values need when they are written as text.

What ends in `?` is absent where the counts it takes cannot be computed.
-/

set_option autoImplicit false

namespace SqlDialects

/-- The kinds of column types that every dialect knows. -/
inductive TypeKind where
  | string | int16 | int32 | int64 | decimal | dateTime | timeSpan | bool | byte | byteArray | guid
deriving DecidableEq, Repr, Inhabited

namespace TypeKind

/-- All kinds, in the order of their declaration. -/
def all : List TypeKind :=
  [string, int16, int32, int64, decimal, dateTime, timeSpan, bool, byte, byteArray, guid]

/-- The name of the kind in documents. -/
def code : TypeKind → String
  | string => "string"
  | int16 => "int16"
  | int32 => "int32"
  | int64 => "int64"
  | decimal => "decimal"
  | dateTime => "date_time"
  | timeSpan => "time_span"
  | bool => "bool"
  | byte => "byte"
  | byteArray => "byte_array"
  | guid => "guid"

/-- The name of the kind in running text. -/
def label : TypeKind → String
  | dateTime => "datetime"
  | timeSpan => "timespan"
  | kind => kind.code

/-- The place of a kind in the chain along which numbers widen. -/
def numericRank : TypeKind → Option Nat
  | bool => some 0
  | byte => some 1
  | int16 => some 2
  | int32 => some 3
  | int64 => some 4
  | decimal => some 5
  | _ => none

/-- The integers and decimals; truth values are not numeric. -/
def isNumeric (kind : TypeKind) : Bool := kind.numericRank.any (0 < ·)

/-- The least and the greatest value of an integer kind. -/
def integerRange : TypeKind → Option (Int × Int)
  | byte => some (0, 255)
  | int16 => some (-32768, 32767)
  | int32 => some (-2147483648, 2147483647)
  | int64 => some (-9223372036854775808, 9223372036854775807)
  | _ => none

/-- Whether a width means something for the kind. -/
def hasWidth : TypeKind → Bool
  | string | byteArray => true
  | _ => false

/-- The date and time kinds. -/
def isDateLike : TypeKind → Bool
  | dateTime | timeSpan => true
  | _ => false

/-- The characters that the longest value of the kind takes as text; 0 where the kind alone does
not tell. -/
def maxTextWidth : TypeKind → UInt32
  | bool => 5
  | byte => 3
  | int16 => 6
  | int32 => 11
  | int64 => 20
  | dateTime => 27
  | timeSpan => 16
  | guid => 36
  | decimal | string | byteArray => 0

end TypeKind

/-- A request for a column type. -/
structure TypeRequest where
  kind : TypeKind
  /-- Length of a string or byte array; unlimited if absent. -/
  width : Option UInt32 := none
  /-- Digits of a decimal; integers may carry the digits seen so far. -/
  decimalSize : Option DecimalSize := none
  /-- Whether a string has to hold characters beyond ASCII. -/
  unicode : Bool := false
deriving DecidableEq, Repr, Inhabited

namespace TypeRequest

/-! ## Construction -/

/-- A request for a kind and nothing more. -/
def ofKind (kind : TypeKind) : TypeRequest := { kind }

/-- A string of the given width. -/
def string (width : UInt32) : TypeRequest := { kind := .string, width := some width }

/-- A string of unlimited width. -/
def unlimitedString : TypeRequest := ofKind .string

/-- A decimal of the given size. -/
def decimal (size : DecimalSize) : TypeRequest := { kind := .decimal, decimalSize := some size }

/-- Bytes, of the given width or unlimited. -/
def byteArray (width : Option UInt32) : TypeRequest := { kind := .byteArray, width }

/-- Equality in which absent digit counts count as 0. -/
def same (a b : TypeRequest) : Bool :=
  a.kind == b.kind && a.width == b.width && a.unicode == b.unicode &&
    match a.decimalSize, b.decimalSize with
    | some d, some e => d.same e
    | none, none => true
    | _, _ => false

/-! ## Widening -/

/-- The larger of two limits, where absence means that there is no limit. -/
def maxLimit : Option UInt32 → Option UInt32 → Option UInt32
  | some a, some b => some (max a b)
  | _, _ => none

/-- The width the values of a request need as text; absent if unlimited.  An integer that carries
digits needs those and a sign. -/
def textWidth (r : TypeRequest) : Option UInt32 :=
  match r.kind with
  | .string | .byteArray => r.width
  | .decimal => some (max (match r.decimalSize with
      | some d => d.textLength
      | none => 0) 1)
  | kind =>
    match r.decimalSize with
    | some d => some (if d.isEmpty then kind.maxTextWidth else d.textLength + 1)
    | none => some kind.maxTextWidth

/-- The width the values of a request need as text; nothing if it cannot be counted. -/
def textWidth? (r : TypeRequest) : Option (Option UInt32) :=
  match r.kind, r.decimalSize with
  | .string, _ | .byteArray, _ => some r.width
  | .decimal, some d => d.textLength?.map fun length => some (max length 1)
  | .decimal, none => some (some 1)
  | kind, some d => do
    if ← d.isEmpty? then return some kind.maxTextWidth
    return some (← Count.sum? (← d.textLength?) 1)
  | kind, none => some (some kind.maxTextWidth)

/-- A request that admits what either request admits.  Equal kinds keep the kind, numbers widen
along their chain, and anything else becomes a string wide enough for both.  Integers keep the
digits that they carry, so that a decimal seen later still knows of them. -/
def widen (a b : TypeRequest) : TypeRequest :=
  if a.kind = b.kind then
    { kind := a.kind
      width := maxLimit a.width b.width
      decimalSize := DecimalSize.combine a.decimalSize b.decimalSize
      unicode := a.unicode || b.unicode }
  else
    match a.kind.numericRank, b.kind.numericRank with
    | some ra, some rb =>
      { kind := if rb ≤ ra then a.kind else b.kind
        decimalSize := DecimalSize.combine a.decimalSize b.decimalSize }
    | _, _ =>
      { kind := .string
        width := maxLimit a.textWidth b.textWidth
        unicode := a.unicode || b.unicode }

/-- Whether two requests are widened without regard to the texts of their values: they are of one
kind, or both of them in the chain of the numbers. -/
def widensByKind (a b : TypeRequest) : Bool :=
  a.kind == b.kind || a.kind.numericRank.isSome && b.kind.numericRank.isSome

/-- A request that admits what either request admits; nothing if a width cannot be counted. -/
def widen? (a b : TypeRequest) : Option TypeRequest := do
  unless a.widensByKind b do
    let _ ← a.textWidth?
    let _ ← b.textWidth?
  return a.widen b

/-! ## Rendering -/

/-- The request in one line of text, such as `string(10) unicode`. -/
def render (r : TypeRequest) : String :=
  r.kind.label ++
    (match r.width with
      | some w => s!"({w.toNat})"
      | none => "") ++
    (match r.decimalSize with
      | some d => d.render
      | none => "") ++
    (if r.unicode then " unicode" else "")

/-- The request in one line of text; nothing if its digits cannot be counted. -/
def render? (r : TypeRequest) : Option String := do
  if let some d := r.decimalSize then let _ ← d.precision?
  return r.render

end TypeRequest

end SqlDialects
