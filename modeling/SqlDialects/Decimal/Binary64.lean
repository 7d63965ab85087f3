import SqlDialects.Decimal.Fixed

/-!
# Double-precision numbers

A `Binary64` is the 64-bit word of a floating-point number with 53 significant bits.  Its finite
values are `± mantissa * 2 ^ exponent`, and all arithmetic on them is done on exact integers.

## Main definitions

* `Binary64.mantissa`, `exponent` — the two integers of a finite value.
* `Binary64.ofScientific` — the double nearest to a decimal numeral, ties to even.
* `Binary64.toFixed?` — the value as a fixed-point decimal, with the digits that a double holds.
-/

set_option autoImplicit false

namespace SqlDialects

/-- A double-precision number, as its word. -/
structure Binary64 where
  bits : UInt64
deriving DecidableEq, Repr, Inhabited

namespace Binary64

/-! ## Parts -/

/-- The sign bit. -/
def negative (x : Binary64) : Bool := x.bits.toNat / Nat.pow 2 63 % 2 == 1

/-- The exponent field. -/
def exponentField (x : Binary64) : Nat := x.bits.toNat / Nat.pow 2 52 % Nat.pow 2 11

/-- The fraction field. -/
def fractionField (x : Binary64) : Nat := x.bits.toNat % Nat.pow 2 52

/-- Neither infinite nor a NaN. -/
def isFinite (x : Binary64) : Bool := x.exponentField != 2047

/-- Not a number. -/
def isNaN (x : Binary64) : Bool := x.exponentField == 2047 && x.fractionField != 0

/-- The integer of a finite value, below `2 ^ 53`. -/
def mantissa (x : Binary64) : Nat :=
  if x.exponentField = 0 then x.fractionField else x.fractionField + Nat.pow 2 52

/-- The power of two of a finite value. -/
def exponent (x : Binary64) : Int :=
  if x.exponentField = 0 then -1074 else (x.exponentField : Int) - 1075

/-- Either zero. -/
def isZero (x : Binary64) : Bool := x.exponentField == 0 && x.fractionField == 0

/-- Equality of value: the two zeros are equal and a NaN equals nothing. -/
def same (x y : Binary64) : Bool := !x.isNaN && (x == y || (x.isZero && y.isZero))

/-! ## Construction -/

/-- The double with the given sign and magnitude word. -/
def ofMagnitude (negative : Bool) (magnitude : Nat) : Binary64 :=
  ⟨UInt64.ofNat (if negative then magnitude + Nat.pow 2 63 else magnitude)⟩

/-- The word of an infinity without its sign. -/
def infinityMagnitude : Nat := 2047 * Nat.pow 2 52

/-- The quotient of two naturals, rounded to nearest, ties to even. -/
def divideToEven (num den : Nat) : Nat :=
  let q := num / den
  let r := num % den
  if den < 2 * r then q + 1 else if 2 * r = den then q + q % 2 else q

/-- The magnitude word nearest to `num / den`, both positive. -/
def nearestMagnitude (num den : Nat) : Nat :=
  let scale : Int := (num.log2 : Int) - den.log2
  -- `num / den` lies below `2 ^ (scale + 1)` and above `2 ^ (scale - 1)`
  let atLeast (e : Int) : Bool :=
    if 0 ≤ e then den * Nat.pow 2 e.toNat ≤ num else den ≤ num * Nat.pow 2 (-e).toNat
  let top := if atLeast scale then scale else scale - 1
  let power := max (top - 52) (-1074)
  let rounded :=
    if 0 ≤ power then divideToEven num (den * Nat.pow 2 power.toNat)
    else divideToEven (num * Nat.pow 2 (-power).toNat) den
  -- a carry out of the fraction moves on into the exponent field by itself
  min (rounded + (power + 1074).toNat * Nat.pow 2 52) infinityMagnitude

/-- The double nearest to `± digits * 10 ^ power`.  Because of `8 < 10`, a numeral with a very small
power lies below `2 ^ -1099` and so next to zero, which spares the large powers of ten. -/
def ofScientific (negative : Bool) (digits : Nat) (power : Int) : Binary64 :=
  if digits = 0 || (digits.log2 : Int) + 3 * power < -1100 then ofMagnitude negative 0
  else if 400 < power then ofMagnitude negative infinityMagnitude
  else if 0 ≤ power then ofMagnitude negative (nearestMagnitude (digits * Nat.pow 10 power.toNat) 1)
  else ofMagnitude negative (nearestMagnitude digits (Nat.pow 10 (-power).toNat))

/-! ## Fixed-point value -/

/-- Multiplies by powers of five while a coefficient of 96 bits has room for it, and otherwise
gives up binary digits; `halvings` binary places are to be removed. -/
def removeHalves : (halvings : Nat) → (m : Nat) → (power : Int) → Nat × Int
  | 0, m, power => (m, power)
  | halvings + 1, m, power =>
    if m % 2 = 0 then removeHalves halvings (m / 2) (power + 1)
    else if m * 5 < Nat.pow 2 96 then removeHalves halvings (m * 5) power
    else removeHalves halvings (m / 2) (power + 1)

/-- Doubles while a coefficient of 96 bits has room for it, and otherwise divides by five;
`doublings` binary places are to be added. -/
def addDoubles : (doublings : Nat) → (m : Nat) → (power : Int) → Nat × Int
  | 0, m, power => (m, power)
  | doublings + 1, m, power =>
    if m < Nat.pow 2 95 then addDoubles doublings (m * 2) (power - 1)
    else addDoubles doublings (m / 5) power

/-- Divides by ten and rounds half up while there are more than `limit` decimal places. -/
def limitPlaces (limit : Nat) : (places : Nat) → (m : Nat) → Nat × Nat
  | 0, m => (m, 0)
  | places + 1, m =>
    if places + 1 ≤ limit then (m, places + 1)
    else if m / 10 = 0 then (0, 0)
    else limitPlaces limit places (m / 10 + if 5 ≤ m % 10 then 1 else 0)

/-- Divides by ten and rounds half up while there are more digits than a double tells apart. -/
def limitDigits : (places : Nat) → (m : Nat) → Nat × Nat
  | 0, m => (m, 0)
  | places + 1, m =>
    if m < Nat.pow 2 52 then (m, places + 1)
    else limitDigits places (m / 10 + if 5 ≤ m % 10 then 1 else 0)

/-- The value as a fixed-point decimal without trailing zeros, rounded to what a double tells
apart; none if it is not finite or too large. -/
def toFixed? (x : Binary64) : Option FixedDecimal :=
  if !x.isFinite then none
  else if x.isZero then FixedDecimal.ofParts? false 0 0
  else
    let (m, power) :=
      if x.exponent ≤ 0 then removeHalves (-x.exponent).toNat x.mantissa x.exponent
      else addDoubles x.exponent.toNat x.mantissa x.exponent
    if 0 < power then
      if 28 < power then none
      else FixedDecimal.ofParts? x.negative (m * Nat.pow 10 power.toNat) 0
    else
      let (m, places) := limitPlaces 28 (-power).toNat m
      let (m, places) := limitDigits places m
      let (m, places) := FixedDecimal.dropZeros m places
      FixedDecimal.ofParts? x.negative m places

end Binary64

end SqlDialects
