import SqlDialects.Calendar.Date
import SqlDialects.Decimal.Shortest
import SqlDialects.Text.Quoted
import SqlDialects.TypeRequest

/-!
# Values

The values that rows, parameters and query results hold.  Text is the loosely typed form, whose
meaning has yet to be found out; every other value has a definite kind.

## Main definitions

* `SqlValue` — values.
* `SqlValue.integer?` — the integer that a value stands for.
* `SqlValue.kind?` — the kind of a value that is neither null nor text.
* `SqlValue.describe` — a value as reports on rows show it.
-/

set_option autoImplicit false

namespace SqlDialects

open Text

/-! ## Identifiers of 128 bits -/

/-- A globally unique identifier. -/
structure Guid where
  bits : BitVec 128
deriving DecidableEq, Repr, Inhabited

namespace Guid

/-- The 32 hexadecimal digits in groups of 8, 4, 4, 4 and 12. -/
def render (g : Guid) : String :=
  let digits := hex g.bits.toNat
  let all := List.replicate (32 - digits.length) '0' ++ digits
  let group (start length : Nat) : String := String.ofList ((all.drop start).take length)
  "-".intercalate [group 0 8, group 8 4, group 12 4, group 16 4, group 20 12]

/-- Reads 32 hexadecimal digits, which may have hyphens between them. -/
def read (s : Chars) : Option Guid :=
  let digits := s.filter (· != '-')
  if digits.length = 32 then (readInBase 16 digits).map fun n => ⟨BitVec.ofNat 128 n⟩ else none

end Guid

/-! ## Values -/

/-- A value of a row, a parameter or a result. -/
inductive SqlValue where
  | null
  | bool (b : Bool)
  | byte (n : UInt8)
  | int16 (n : Int16)
  | int32 (n : Int32)
  | int64 (n : Int64)
  | double (x : Binary64)
  | decimal (d : FixedDecimal)
  | text (s : String)
  | bytes (b : List UInt8)
  | guid (g : Guid)
  | dateTime (dt : DateTime)
  | date (d : Date)
  | time (t : TimeOfDay)
deriving DecidableEq, Repr, Inhabited

namespace SqlValue

/-- Whether there is no value. -/
def isNull : SqlValue → Bool
  | null => true
  | _ => false

/-- The text of a text value. -/
def text? : SqlValue → Option String
  | text s => some s
  | _ => none

/-- The 64-bit integer that a value stands for.  Doubles and dates stand for none, and text does if
it is the numeral of one. -/
def integer? : SqlValue → Option Int
  | bool b => some (if b then 1 else 0)
  | byte n => some n.toNat
  | int16 n => some n.toInt
  | int32 n => some n.toInt
  | int64 n => some n.toInt
  | decimal d => d.toInt64?
  | text s => readInt64 (trim s.toList)
  | _ => none

/-- The kind of a value; what kind a text has is not known before it is guessed. -/
def kind? : SqlValue → Option TypeKind
  | null | text _ => none
  | bool _ => some .bool
  | byte _ => some .byte
  | int16 _ => some .int16
  | int32 _ => some .int32
  | int64 _ => some .int64
  | double _ | decimal _ => some .decimal
  | bytes _ => some .byteArray
  | guid _ => some .guid
  | dateTime _ | date _ => some .dateTime
  | time _ => some .timeSpan

/-- Equality of values of the same form.  Numbers are compared by value, so a NaN equals nothing. -/
def same : SqlValue → SqlValue → Bool
  | double x, double y => x.same y
  | decimal d, decimal e => d.same e
  | a, b => a == b

/-- The value with the name of its form, as reports on rows show it. -/
def describe : SqlValue → String
  | null => "Null"
  | bool b => "Bool(" ++ (if b then "true" else "false") ++ ")"
  | byte n => "U8(" ++ toString n.toNat ++ ")"
  | int16 n => "I16(" ++ toString n.toInt ++ ")"
  | int32 n => "I32(" ++ toString n.toInt ++ ")"
  | int64 n => "I64(" ++ toString n.toInt ++ ")"
  | double x => "F64(" ++ x.render ++ ")"
  | decimal d => "Decimal(" ++ d.render ++ ")"
  | text s => "Text(" ++ quoted s ++ ")"
  | bytes b => "Bytes([" ++ ", ".intercalate (b.map fun n => toString n.toNat) ++ "])"
  | guid g => "Uuid(" ++ g.render ++ ")"
  | dateTime dt => "DateTime(" ++ String.ofList (dt.renderWith 'T') ++ ")"
  | date d => "Date(" ++ String.ofList d.render ++ ")"
  | time t => "Time(" ++ String.ofList t.render ++ ")"

end SqlValue

end SqlDialects
