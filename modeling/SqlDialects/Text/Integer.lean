import SqlDialects.Text.Blank

/-!
# Reading whole numbers

A whole number is an optional sign and at least one ASCII digit, with nothing around it, and has to
lie in the range that is asked for.  In a base beyond ten the digits go on with letters of either
case.

## Main definitions

* `readNat` — digits only.
* `readInt` — a signed number within bounds; `readInt64` for the 64-bit range.
* `readUnsigned` — an unsigned number up to a bound; a plus sign is allowed.
* `readInBase` — digits only, in a base up to sixteen.
-/

set_option autoImplicit false

namespace SqlDialects.Text

/-- The value of a non-empty run of ASCII digits. -/
def readNat (s : Chars) : Option Nat :=
  if s.isEmpty || !s.all Char.isDigit then none else some (Nat.ofDigitChars 10 s 0)

/-- The value of a signed numeral, without bounds. -/
def readSigned : Chars → Option Int
  | '-' :: s => (readNat s).map fun n => -(n : Int)
  | '+' :: s => (readNat s).map fun n => (n : Int)
  | s => (readNat s).map fun n => (n : Int)

/-- A signed numeral whose value lies between the bounds. -/
def readInt (least greatest : Int) (s : Chars) : Option Int :=
  (readSigned s).filter fun n => least ≤ n && n ≤ greatest

/-- The least 64-bit integer. -/
def int64Min : Int := -9223372036854775808

/-- The greatest 64-bit integer. -/
def int64Max : Int := 9223372036854775807

/-- A signed numeral in the 64-bit range. -/
def readInt64 (s : Chars) : Option Int := readInt int64Min int64Max s

/-- An unsigned numeral up to the bound; it may have a plus sign. -/
def readUnsigned (greatest : Nat) (s : Chars) : Option Nat :=
  let digits := match s with
    | '+' :: rest => rest
    | _ => s
  (readNat digits).filter fun n => n ≤ greatest

/-- The value of a digit in a base up to sixteen. -/
def digitIn? (base : Nat) (c : Char) : Option Nat :=
  let value :=
    if c.isDigit then some (c.toNat - 48)
    else if 'a' ≤ c ∧ c ≤ 'f' then some (c.toNat - 87)
    else if 'A' ≤ c ∧ c ≤ 'F' then some (c.toNat - 55)
    else none
  value.filter (· < base)

/-- The value of a non-empty run of digits in a base up to sixteen. -/
def readInBase (base : Nat) (s : Chars) : Option Nat :=
  if s.isEmpty then none
  else (s.mapM (digitIn? base)).map fun digits => digits.foldl (fun n d => base * n + d) 0

end SqlDialects.Text
