import SqlDialects.Decimal.Binary64
import SqlDialects.Text.Ascii

/-!
# Shortest numerals of doubles

A finite double is written with the fewest significant digits that read back as the same double,
and among those with the digits nearest to its value; a tie goes to the greater.  The search goes
through the decimal grids from coarse to fine, and on each of them only the two neighbours of the
value can qualify.

## Main definitions

* `Binary64.onGrid` — the best multiple of a power of ten that reads back as the double.
* `Binary64.shortest` — the digits and the power of ten of the shortest numeral.
* `Binary64.read`, `render` — doubles as text.
-/

set_option autoImplicit false

namespace SqlDialects

open Text

namespace Binary64

/-! ## The search -/

/-- Four times the mantissa is the unit of the rounding interval; this is the distance from the
value to its lower end.  It is half as long below a power of two. -/
def lowerReach (x : Binary64) : Nat :=
  if x.fractionField = 0 && 1 < x.exponentField then 1 else 2

/-- The multiple of `10 ^ power` that is nearest to the magnitude of a finite double, if it reads
back as that double. -/
def onGrid (x : Binary64) (power : Int) : Option Nat :=
  let factor := Nat.pow 2 (x.exponent - 2).toNat * Nat.pow 10 (-power).toNat
  let unit := Nat.pow 2 (2 - x.exponent).toNat * Nat.pow 10 power.toNat
  let value := 4 * x.mantissa * factor
  let low := (4 * x.mantissa - x.lowerReach) * factor
  let high := (4 * x.mantissa + 2) * factor
  let readsBack (n : Nat) : Bool :=
    -- ties are read as the even mantissa, so its interval includes its ends
    if x.mantissa % 2 = 0 then low ≤ n * unit && n * unit ≤ high
    else low < n * unit && n * unit < high
  let below := value / unit
  match readsBack below, readsBack (below + 1) with
  | true, true => some (if 2 * (value % unit) < unit then below else below + 1)
  | true, false => some below
  | false, true => some (below + 1)
  | false, false => none

/-- The count of digits before the point of the magnitude of a finite double; negative by the count
of zeros that follow the point. -/
def digitsBeforePoint (x : Binary64) : Int :=
  let scaled :=
    x.mantissa * Nat.pow 2 x.exponent.toNat * Nat.pow 10 340 / Nat.pow 2 (-x.exponent).toNat
  ((Nat.toDigits 10 scaled).length : Int) - 340

/-- Moves trailing zeros of the digits into the power of ten. -/
def moveZeros : (fuel : Nat) → Nat → Int → Nat × Int
  | 0, digits, power => (digits, power)
  | fuel + 1, digits, power =>
    if digits % 10 = 0 then moveZeros fuel (digits / 10) (power + 1) else (digits, power)

/-- Digits and power of ten of the shortest numeral of a finite double other than zero. -/
def shortest (x : Binary64) : Nat × Int :=
  let top := x.digitsBeforePoint
  -- the coarsest grid gives the fewest digits
  match (List.range 17).findSome? fun (i : Nat) =>
      (x.onGrid (top - 1 - i)).map fun n => (n, top - 1 - (i : Int)) with
  | some (digits, power) => moveZeros 17 digits power
  | none => (x.mantissa, x.exponent)

/-! ## Layout -/

/-- Digits with a point after the first of them, if there are several. -/
def pointAfterFirst : Chars → Chars
  | [] => []
  | [c] => [c]
  | c :: rest => c :: '.' :: rest

/-- A number without its sign.  From `10 ^ 16` on and below `10 ^ -4` it has an exponent, in
between it is written out with at least one digit after the point. -/
def layout (digits : Chars) (power : Int) : Chars :=
  let top : Int := digits.length + power
  if top ≤ -4 || 16 < top then pointAfterFirst digits ++ 'e' :: (toString (top - 1)).toList
  else if top ≤ 0 then ['0', '.'] ++ List.replicate (-top).toNat '0' ++ digits
  else if 0 ≤ power then digits ++ List.replicate power.toNat '0' ++ ['.', '0']
  else digits.take top.toNat ++ '.' :: digits.drop top.toNat

/-- The double as text. -/
def render (x : Binary64) : String :=
  if x.isNaN then "NaN"
  else
    let magnitude : Chars :=
      if !x.isFinite then ['i', 'n', 'f']
      else if x.isZero then ['0', '.', '0']
      else layout (Nat.toDigits 10 x.shortest.1) x.shortest.2
    String.ofList (if x.negative then '-' :: magnitude else magnitude)

/-! ## Reading -/

/-- The magnitude of a numeral with an optional point and exponent, as digits and power of ten. -/
def readScientific (s : Chars) : Option (Nat × Int) :=
  let isExponent (c : Char) : Bool := c == 'e' || c == 'E'
  let number := s.takeWhile fun c => !isExponent c
  let exponent : Option Int := match s.dropWhile fun c => !isExponent c with
    | [] => some 0
    | _ :: rest => readSigned rest
  let whole := number.takeWhile (· != '.')
  let fraction := (number.dropWhile (· != '.')).drop 1
  match exponent, readNat (whole ++ fraction) with
  | some e, some n => some (n, e - fraction.length)
  | _, _ => none

/-- Reads a double: a numeral, `inf` or `NaN`, with an optional sign. -/
def read (s : Chars) : Option Binary64 :=
  let (negative, magnitude) := match s with
    | '-' :: rest => (true, rest)
    | '+' :: rest => (false, rest)
    | _ => (false, s)
  match String.ofList (lower magnitude) with
  | "nan" => some (ofMagnitude negative (infinityMagnitude + Nat.pow 2 51))
  | "inf" | "infinity" => some (ofMagnitude negative infinityMagnitude)
  | _ => (readScientific magnitude).map fun (digits, power) => ofScientific negative digits power

end Binary64

end SqlDialects
