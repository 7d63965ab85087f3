/-!
# Digit counts of fixed-point numbers

A `DecimalSize` records how many digits a column of numbers needs before and after the decimal
point.  A side that is absent has not been constrained yet: it takes whatever the first widening
supplies, and wherever a count is asked for it counts as none.  Counts are 32-bit words, and counts
given as integers are clamped to that range.

The sum of two counts need not be a count.  A program whose arithmetic is checked stops there, and
what it would have computed is absent: such functions end in `?`.  Their namesakes compute with the
same words modulo `2 ^ 32`, as arithmetic without checks does, and agree with them wherever they
have a result.

## Main definitions

* `Count.sum?`, `Count.product?` — sums and products that are counts themselves.
* `DecimalSize.clamp` — an integer as a digit count.
* `DecimalSize.ofPrecisionScale` — the size that a declared `(precision, scale)` pair stands for.
* `DecimalSize.precision?`, `textLength?`, `render?` — the digits and characters of a size.
* `DecimalSize.join`, `combine` — the least size that admits what either of two sizes admits.
* `DecimalSize.widenBefore`, `widenTo`, `widenBy` — the same, one argument at a time.
* `DecimalSize.same` — equality up to absent sides.
-/

set_option autoImplicit false

namespace SqlDialects

namespace Count

/-- The sum of two counts; nothing if it is too great. -/
def sum? (a b : UInt32) : Option UInt32 :=
  if a.toNat + b.toNat < 4294967296 then some (a + b) else none

/-- The product of two counts; nothing if it is too great. -/
def product? (a b : UInt32) : Option UInt32 :=
  if a.toNat * b.toNat < 4294967296 then some (a * b) else none

end Count

/-- Digits before and after the decimal point, where known. -/
structure DecimalSize where
  /-- Digits before the point. -/
  before : Option UInt32 := none
  /-- Digits after the point. -/
  after : Option UInt32 := none
deriving DecidableEq, Repr, Inhabited

namespace DecimalSize

/-! ## Construction -/

/-- An integer as a digit count: negative numbers give 0, numbers too large the greatest word. -/
def clamp (n : Int) : UInt32 := UInt32.ofNat (min n.toNat 4294967295)

/-- The size whose two sides are both known. -/
def ofDigits (before after : Int) : DecimalSize := ⟨some (clamp before), some (clamp after)⟩

/-- The size whose sides may be absent. -/
def ofParts (before after : Option Int) : DecimalSize := ⟨before.map clamp, after.map clamp⟩

/-- The size of a type declared with a precision and a scale, which are 64-bit integers: the scale
counts digits after the point, and their difference, taken modulo `2 ^ 64`, those before it. -/
def ofPrecisionScale (precision scale : Int) : DecimalSize :=
  ofDigits (Int.bmod (precision - scale) (Nat.pow 2 64)) scale

/-- The same; nothing if the difference is no 64-bit integer. -/
def ofPrecisionScale? (precision scale : Int) : Option DecimalSize :=
  let before := precision - scale
  if -9223372036854775808 ≤ before ∧ before ≤ 9223372036854775807 then some (ofDigits before scale)
  else none

/-! ## Counts -/

/-- Digits before the point, 0 if absent. -/
def beforeDigits (d : DecimalSize) : UInt32 := d.before.getD 0

/-- Digits after the point, 0 if absent. -/
def scale (d : DecimalSize) : UInt32 := d.after.getD 0

/-- All digits; nothing if they cannot be counted. -/
def precision? (d : DecimalSize) : Option UInt32 := Count.sum? d.beforeDigits d.scale

/-- All digits, modulo `2 ^ 32`. -/
def precision (d : DecimalSize) : UInt32 := d.beforeDigits + d.scale

/-- Whether no digit is asked for; nothing if the digits cannot be counted. -/
def isEmpty? (d : DecimalSize) : Option Bool := d.precision?.map (· == 0)

/-- Whether no digit is asked for, modulo `2 ^ 32`. -/
def isEmpty (d : DecimalSize) : Bool := d.precision == 0

/-- The characters that such a number takes, the point included; nothing if they cannot be
counted. -/
def textLength? (d : DecimalSize) : Option UInt32 := do
  let digits ← d.precision?
  if d.scale = 0 then pure digits else Count.sum? digits 1

/-- The characters that such a number takes, the point included, modulo `2 ^ 32`. -/
def textLength (d : DecimalSize) : UInt32 :=
  if d.scale = 0 then d.precision else d.precision + 1

/-- The size as `(precision,scale)`; nothing if the digits cannot be counted. -/
def render? (d : DecimalSize) : Option String :=
  d.precision?.map fun digits => s!"({digits.toNat},{d.scale.toNat})"

/-- The size as `(precision,scale)`, the precision modulo `2 ^ 32`. -/
def render (d : DecimalSize) : String := s!"({d.precision.toNat},{d.scale.toNat})"

/-- Equality in which an absent side counts as 0. -/
def same (d e : DecimalSize) : Bool := d.beforeDigits == e.beforeDigits && d.scale == e.scale

/-! ## Widening -/

/-- The larger of two counts, an absent one being below every other. -/
def maxDigits : Option UInt32 → Option UInt32 → Option UInt32
  | some a, some b => some (max a b)
  | a, none => a
  | none, b => b

/-- The least size that admits what either size admits. -/
def join (d e : DecimalSize) : DecimalSize :=
  ⟨maxDigits d.before e.before, maxDigits d.after e.after⟩

/-- The join of those of the two sizes that are there. -/
def combine : Option DecimalSize → Option DecimalSize → Option DecimalSize
  | some d, some e => some (d.join e)
  | d, none => d
  | none, e => e

/-- At least the given number of digits before the point. -/
def widenBefore (d : DecimalSize) (before : Int) : DecimalSize :=
  { d with before := some (match d.before with
      | some b => max b (clamp before)
      | none => clamp before) }

/-- At least the given numbers of digits on both sides. -/
def widenTo (d : DecimalSize) (before after : Int) : DecimalSize :=
  { d.widenBefore before with after := some (match d.after with
      | some a => max a (clamp after)
      | none => clamp after) }

/-- Wide enough for another size too; its absent sides ask for nothing. -/
def widenBy (d e : DecimalSize) : DecimalSize :=
  let widened := match e.before with
    | some b => d.widenBefore b.toNat
    | none => d
  match e.after with
  | some a => { widened with after := some (max a (widened.after.getD 0)) }
  | none => widened

end DecimalSize

end SqlDialects
