import SqlDialects.DateReader
import SqlDialects.Document.Form

/-!
# The form of values

A text stands for itself, and a value of any other form is an object with one member, which is named
for the form.  Numbers that may not fit the numbers of a reader of JSON are written as texts.

## Main definitions

* `Form.value` — the form of values.
-/

set_option autoImplicit false

namespace SqlDialects

open Text

/-! ## Bytes -/

/-- The two hexadecimal digits of a byte. -/
def hexPair (n : UInt8) : Chars :=
  let digits := hex n.toNat
  List.replicate (2 - digits.length) '0' ++ digits

/-- Reads pairs of hexadecimal digits. -/
def readHexPairs : Chars → Option (List UInt8)
  | [] => some []
  | [_] => none
  | c :: d :: rest => do
    let n ← readInBase 16 [c, d]
    return UInt8.ofNat n :: (← readHexPairs rest)

namespace Form

/-! ## Values -/

/-- The member that tells a value which is neither null nor a text. -/
def encodeMember : SqlValue → Option (String × Document)
  | .null | .text _ => none
  | .bool b => some ("bool", .boolean b)
  | .byte n => some ("u8", .integer n.toNat)
  | .int16 n => some ("i16", .integer n.toInt)
  | .int32 n => some ("i32", .integer n.toInt)
  | .int64 n => some ("i64", .text (toString n.toInt))
  | .double x => some ("f64", .text x.render)
  | .decimal d => some ("decimal", .text d.render)
  | .bytes b => some ("bytes", .text (String.ofList (b.flatMap hexPair)))
  | .guid g => some ("uuid", .text g.render)
  | .dateTime dt => some ("datetime", .text (String.ofList dt.render))
  | .date d => some ("date", .text (String.ofList d.render))
  | .time t => some ("time", .text (String.ofList t.render))

/-- The value of a form that is written as a text. -/
def decodeText (form s : String) : Option SqlValue :=
  let dateTime? := (DateReader.ofCulture .invariant).readDateTime s
  match form with
  | "i64" => (readInt64 s.toList).map fun n => .int64 (Int64.ofInt n)
  | "f64" => (Binary64.read s.toList).map .double
  | "decimal" => (FixedDecimal.read s.toList).map .decimal
  | "bytes" => (readHexPairs s.toList).map .bytes
  | "uuid" => (Guid.read s.toList).map .guid
  | "datetime" => dateTime?.map .dateTime
  | "date" => dateTime?.map fun dt => .date dt.date
  | "time" => (DateReader.readTime s).map .time
  | _ => none

/-- The value of a form that is written as a number. -/
def decodeInteger (form : String) (n : Int) : Option SqlValue :=
  match form with
  | "u8" => if 0 ≤ n ∧ n < 256 then some (.byte (UInt8.ofNat n.toNat)) else none
  | "i16" => if -32768 ≤ n ∧ n < 32768 then some (.int16 (Int16.ofInt n)) else none
  | "i32" => if -2147483648 ≤ n ∧ n < 2147483648 then some (.int32 (Int32.ofInt n)) else none
  | _ => none

/-- A value. -/
def value : Form SqlValue where
  encode
    | .null => .null
    | .text s => .text s
    | v => .object (encodeMember v).toList
  decode
    | .null => some .null
    | .text s => some (.text s)
    | .object [("bool", .boolean b)] => some (.bool b)
    | .object [(form, .text s)] => decodeText form s
    | .object [(form, .integer n)] => decodeInteger form n
    | _ => none

/-- A row of values. -/
def row : Form (List SqlValue) := value.list

end Form

end SqlDialects
