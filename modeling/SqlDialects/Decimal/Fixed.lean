import SqlDialects.Text.Integer

/-!
# Fixed-point decimals

A `FixedDecimal` is a signed coefficient of 96 bits with up to 28 digits after the point.  The
digits after the point are part of the number as written: `1.50` and `1.5` are equal in value and
yet print differently.  Zero carries no sign.

## Main definitions

* `FixedDecimal.read`, `render` — the plain decimal numeral of a number.
* `FixedDecimal.shortened` — the same value without trailing zeros after the point.
* `FixedDecimal.same` — equality of value.
-/

set_option autoImplicit false

namespace SqlDialects

open Text

/-- A decimal number with a fixed count of digits after the point. -/
structure FixedDecimal where
  negative : Bool
  /-- The number without its sign and its point. -/
  coefficient : Nat
  /-- Digits after the point. -/
  places : Nat
  coefficient_lt : coefficient < Nat.pow 2 96
  places_le : places ≤ 28
deriving DecidableEq, Repr

namespace FixedDecimal

instance : Inhabited FixedDecimal := ⟨⟨false, 0, 0, by decide, by decide⟩⟩

/-! ## Construction -/

/-- The number with the given parts, if they are within the limits. -/
def ofParts? (negative : Bool) (coefficient places : Nat) : Option FixedDecimal :=
  if h : coefficient < Nat.pow 2 96 ∧ places ≤ 28 then
    some ⟨negative && coefficient != 0, coefficient, places, h.1, h.2⟩
  else none

/-- Reads the digits of a numeral into a coefficient and a count of places.  Digits that no longer
fit after the point are dropped, and the first of them rounds the rest; a digit that does not fit
before the point makes the numeral too large. -/
def readDigits (coefficient : Nat) : (places : Option Nat) → Chars → Option (Nat × Nat)
  | places, [] => some (coefficient, places.getD 0)
  | none, c :: s =>
    if c = '.' then readDigits coefficient (some 0) s
    else if c.isDigit && coefficient * 10 + (c.toNat - 48) < Nat.pow 2 96 then
      readDigits (coefficient * 10 + (c.toNat - 48)) none s
    else none
  | some places, c :: s =>
    if !c.isDigit || !s.all Char.isDigit then none
    else if places < 28 && coefficient * 10 + (c.toNat - 48) < Nat.pow 2 96 then
      readDigits (coefficient * 10 + (c.toNat - 48)) (some (places + 1)) s
    else some (coefficient + (if '5' ≤ c then 1 else 0), places)

/-- Reads a decimal numeral: an optional sign, digits, and at most one point. -/
def read (s : Chars) : Option FixedDecimal :=
  let (negative, digits) := match s with
    | '-' :: rest => (true, rest)
    | '+' :: rest => (false, rest)
    | _ => (false, s)
  if digits.any Char.isDigit then
    (readDigits 0 none digits).bind fun (coefficient, places) =>
      ofParts? negative coefficient places
  else none

/-! ## The value without trailing zeros -/

/-- Takes trailing zeros off a coefficient, one for each place at most. -/
def dropZeros : (coefficient places : Nat) → Nat × Nat
  | coefficient, 0 => (coefficient, 0)
  | coefficient, places + 1 =>
    if coefficient % 10 = 0 then dropZeros (coefficient / 10) places
    else (coefficient, places + 1)

theorem dropZeros_le (coefficient places : Nat) :
    (dropZeros coefficient places).1 ≤ coefficient ∧ (dropZeros coefficient places).2 ≤ places := by
  induction places generalizing coefficient with
  | zero => simp [dropZeros]
  | succ places ih =>
    unfold dropZeros
    split
    · have := ih (coefficient / 10)
      have := Nat.div_le_self coefficient 10
      omega
    · simp

/-- The same value with as few places as possible. -/
def shortened (d : FixedDecimal) : FixedDecimal :=
  ⟨d.negative, (dropZeros d.coefficient d.places).1, (dropZeros d.coefficient d.places).2,
    Nat.lt_of_le_of_lt (dropZeros_le d.coefficient d.places).1 d.coefficient_lt,
    Nat.le_trans (dropZeros_le d.coefficient d.places).2 d.places_le⟩

/-- Equality of value. -/
def same (d e : FixedDecimal) : Bool :=
  d.negative == e.negative &&
    d.coefficient * Nat.pow 10 e.places == e.coefficient * Nat.pow 10 d.places

/-! ## Parts and numerals -/

/-- The digits before the point, without leading zeros; `0` if there are none. -/
def integerDigits (d : FixedDecimal) : Chars :=
  Nat.toDigits 10 (d.coefficient / Nat.pow 10 d.places)

/-- The digits after the point, `places` of them. -/
def fractionDigits (d : FixedDecimal) : Chars :=
  let digits := Nat.toDigits 10 (d.coefficient % Nat.pow 10 d.places)
  if d.places = 0 then [] else List.replicate (d.places - digits.length) '0' ++ digits

/-- The numeral without its sign. -/
def renderMagnitude (d : FixedDecimal) : Chars :=
  if d.places = 0 then d.integerDigits else d.integerDigits ++ '.' :: d.fractionDigits

/-- The plain decimal numeral, with all its places. -/
def render (d : FixedDecimal) : String :=
  String.ofList (if d.negative then '-' :: d.renderMagnitude else d.renderMagnitude)

/-- The value as a 64-bit integer, if it is one. -/
def toInt64? (d : FixedDecimal) : Option Int :=
  let whole : Int := d.coefficient / Nat.pow 10 d.places
  if d.coefficient % Nat.pow 10 d.places = 0 then
    (some (if d.negative then -whole else whole)).filter fun n => int64Min ≤ n && n ≤ int64Max
  else none

end FixedDecimal

end SqlDialects
