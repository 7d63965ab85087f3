import SqlDialects.Proofs.DecimalSize.Widening
import SqlDialects.Proofs.TypeName.Reading
import SqlDialects.Proofs.TypeName.RoundTrip

/-!
# Where the counts are exact

Each count of a size fits a 32-bit word, but the sum of two counts need not.  A program that comes
upon such a size stops: it has no precision and no length, is neither empty nor not, and no type is
declared for it.  Whatever does have a result is exact, since nothing wraps around
(`isCounted`).

`IsExact` says that everything has a result, and `isExact_iff` that this is so just when the
characters of such a number can be counted in 32 bits.  Widening only adds digits, so a whole run is
exact if its end is (`isExact_run_iff`).

Sizes are also built from a precision and a scale, whose difference has to be a 64-bit integer
(`ofPrecisionScale?_eq_none_iff`).  For the numbers in a type name it always is, since these have no
sign (`decimalSizeOf_eq_ofDigits`).  What is left of the danger is the sum: a type name gives an
inexact size when it has a scale and one of its numbers reaches the greatest word
(`isExact_ofDigits_sub_iff`).
-/

set_option autoImplicit false

namespace SqlDialects

open Text

/-- A number, if it can be counted in 32 bits. -/
def counted (n : Nat) : Option Nat := if n < 4294967296 then some n else none

theorem counted_eq_some_iff {n m : Nat} : counted n = some m ↔ n < 4294967296 ∧ n = m := by
  rw [counted, Option.ite_none_right_eq_some, Option.some.injEq]

/-- **A checked sum** is the sum itself, or nothing. -/
theorem Count.toNat_sum? (a b : UInt32) :
    (Count.sum? a b).map UInt32.toNat = counted (a.toNat + b.toNat) := by
  rw [Count.sum?, counted]
  split
  · next h => rw [Option.map_some, UInt32.toNat_add, Nat.mod_eq_of_lt h]
  · rfl

namespace DecimalSize

/-! ## Digits and characters without a bound -/

/-- All digits, counted without a bound. -/
def digits (d : DecimalSize) : Nat := d.beforeDigits.toNat + d.scale.toNat

/-- All characters, the point included, counted without a bound. -/
def characters (d : DecimalSize) : Nat := d.digits + if d.scale = 0 then 0 else 1

/-- The type that is declared for so many digits, if any are asked for. -/
def typeOfDigits (types : TypeStyle) (digits scale : Nat) : String :=
  if digits = 0 then types.declareDecimal none
  else types.decimalName ++ s!"({digits},{scale})"

/-- **What the program makes of a size**: everything that is asked of it follows from its two
counts, or is absent because there is too much to be counted. -/
structure IsCounted (d : DecimalSize) : Prop where
  precision : d.precision?.map UInt32.toNat = counted d.digits
  textLength : d.textLength?.map UInt32.toNat = counted d.characters
  isEmpty : d.isEmpty? = (counted d.digits).map (· == 0)
  declared : ∀ types : TypeStyle, types.declareDecimal? (some d) =
    (counted d.digits).map fun digits => typeOfDigits types digits d.scale.toNat

/-- The precision, the length as text, the test for emptiness and the declared type of a size are
all there, and follow from its two counts. -/
structure IsExact (d : DecimalSize) : Prop where
  /-- The precision is the number of digits. -/
  precision : d.precision?.map UInt32.toNat = some d.digits
  /-- The length as text is the number of characters. -/
  textLength : d.textLength?.map UInt32.toNat = some d.characters
  /-- A size is empty if both counts are 0, and only then. -/
  isEmpty : d.isEmpty? = some (d.beforeDigits == 0 && d.scale == 0)
  /-- A size that is not empty is declared with its own numbers. -/
  declared : ¬(d.beforeDigits = 0 ∧ d.scale = 0) → ∀ types : TypeStyle,
    types.declareDecimal? (some d) =
      some (types.decimalName ++ s!"({d.digits},{d.scale.toNat})")

section Counts

variable {d : DecimalSize}

theorem digits_eq_zero_iff : d.digits = 0 ↔ d.beforeDigits = 0 ∧ d.scale = 0 := by
  rw [digits, Nat.add_eq_zero_iff, ← UInt32.toNat_inj, ← UInt32.toNat_inj]
  rfl

theorem map_toNat_precision? (d : DecimalSize) :
    d.precision?.map UInt32.toNat = counted d.digits :=
  Count.toNat_sum? _ _

theorem map_toNat_textLength? (d : DecimalSize) :
    d.textLength?.map UInt32.toNat = counted d.characters := by
  have hdigits := map_toNat_precision? d
  rw [textLength?, characters]
  cases hprecision : d.precision? with
  | none =>
    rw [hprecision, Option.map_none, counted] at hdigits
    have hmany : ¬ d.digits < 4294967296 := fun h => by simp [h] at hdigits
    rw [counted, if_neg (by omega)]
    rfl
  | some n =>
    rw [hprecision, Option.map_some] at hdigits
    obtain ⟨hfew, hn⟩ := counted_eq_some_iff.mp hdigits.symm
    rw [hn, Option.bind_eq_bind, Option.bind_some]
    split
    · rw [← hn, counted, Nat.add_zero, if_pos hfew, hn]
      rfl
    · exact Count.toNat_sum? n 1

theorem isEmpty?_eq_counted (d : DecimalSize) :
    d.isEmpty? = (counted d.digits).map (· == 0) := by
  rw [isEmpty?, ← map_toNat_precision?, Option.map_map]
  refine congrArg (d.precision?.map ·) (funext fun n => ?_)
  rw [Function.comp_apply, Bool.eq_iff_iff, beq_iff_eq, beq_iff_eq, ← UInt32.toNat_inj]
  rfl

theorem declareDecimal?_eq_counted (types : TypeStyle) (d : DecimalSize) :
    types.declareDecimal? (some d) =
      (counted d.digits).map fun digits => typeOfDigits types digits d.scale.toNat := by
  have hrender : d.render? =
      (counted d.digits).map fun digits => s!"({digits},{d.scale.toNat})" := by
    rw [render?, ← map_toNat_precision?, Option.map_map]
    rfl
  rw [TypeStyle.declareDecimal?, isEmpty?_eq_counted, hrender]
  cases counted d.digits with
  | none => rfl
  | some digits =>
    rw [Option.map_some, Option.map_some, Option.map_some, typeOfDigits]
    by_cases hnone : digits = 0
    · rw [if_pos hnone, hnone]
      rfl
    · rw [if_neg hnone]
      simp [hnone]

theorem isCounted (d : DecimalSize) : d.IsCounted :=
  ⟨map_toNat_precision? d, map_toNat_textLength? d, isEmpty?_eq_counted d,
    fun types => declareDecimal?_eq_counted types d⟩

/-- **Exact sizes** are those whose characters can be counted in 32 bits. -/
theorem isExact_iff : d.IsExact ↔ d.characters < 4294967296 := by
  constructor
  · intro h
    exact (counted_eq_some_iff.mp (d.isCounted.textLength.symm.trans h.textLength)).1
  · intro h
    have hdigits : counted d.digits = some d.digits :=
      counted_eq_some_iff.mpr ⟨Nat.lt_of_le_of_lt (Nat.le_add_right _ _) h, rfl⟩
    refine ⟨d.isCounted.precision.trans hdigits, ?_, ?_, fun hne types => ?_⟩
    · exact d.isCounted.textLength.trans (counted_eq_some_iff.mpr ⟨h, rfl⟩)
    · rw [d.isCounted.isEmpty, hdigits, Option.map_some, Option.some.injEq, Bool.eq_iff_iff,
        beq_iff_eq, digits_eq_zero_iff, Bool.and_eq_true, beq_iff_eq, beq_iff_eq]
    · rw [d.isCounted.declared, hdigits, Option.map_some, typeOfDigits,
        if_neg (mt digits_eq_zero_iff.mp hne)]

end Counts

/-! ## Runs of widenings -/

theorem characters_le_widened (d : DecimalSize) (run : List Widening) :
    d.characters ≤ (d.widened run).characters := by
  have hb := count_le_widened (fun d => d.beforeDigits.toNat) toNat_beforeDigits_join d run
  have hs := count_le_widened (fun d => d.scale.toNat) toNat_scale_join d run
  simp only [characters, digits, ← UInt32.toNat_inj, UInt32.toNat_ofNat] at hb hs ⊢
  split <;> split <;> omega

/-- **A run is exact all the way** if its end is. -/
theorem isExact_run_iff (d : DecimalSize) (run : List Widening) :
    (∀ done, done <+: run → (d.widened done).IsExact) ↔
      (d.widened run).characters < 4294967296 := by
  constructor
  · exact fun h => isExact_iff.mp (h run (List.prefix_refl run))
  · rintro h done ⟨later, rfl⟩
    rw [widened_append] at h
    exact isExact_iff.mpr (Nat.lt_of_le_of_lt (characters_le_widened _ later) h)

/-! ## Precision and scale -/

/-- **The difference of precision and scale** has to be a 64-bit integer. -/
theorem ofPrecisionScale?_eq_none_iff {precision scale : Int} :
    ofPrecisionScale? precision scale = none ↔
      precision - scale < int64Min ∨ int64Max < precision - scale := by
  rw [ofPrecisionScale?, int64Min, int64Max]
  simp only [ite_eq_right_iff, reduceCtorEq, imp_false]
  omega

/-- A size that is made is the one that the two numbers stand for, whether or not the arithmetic is
checked. -/
theorem ofPrecisionScale?_eq_some_iff {precision scale : Int} {size : DecimalSize} :
    ofPrecisionScale? precision scale = some size ↔
      (int64Min ≤ precision - scale ∧ precision - scale ≤ int64Max) ∧
        ofDigits (precision - scale) scale = size ∧ ofPrecisionScale precision scale = size := by
  have hwrapped (h : int64Min ≤ precision - scale ∧ precision - scale ≤ int64Max) :
      ofPrecisionScale precision scale = ofDigits (precision - scale) scale := by
    rw [int64Min, int64Max] at h
    rw [ofPrecisionScale, show Nat.pow 2 64 = 18446744073709551616 from rfl,
      Int.bmod_eq_of_le (by omega) (by omega)]
  rw [ofPrecisionScale?, Option.ite_none_right_eq_some, Option.some.injEq]
  refine and_congr_right fun h => ?_
  rw [hwrapped h, and_self]

/-- A size given by unsigned numbers is exact if it has no scale, or the greater of the numbers
leaves room for the point. -/
theorem isExact_ofDigits_sub_iff (precision scale : Nat) :
    (ofDigits (precision - scale) scale).IsExact ↔
      scale = 0 ∨ max precision scale + 1 < 4294967296 := by
  have hbefore : (ofDigits (precision - scale) scale).beforeDigits.toNat =
      min (precision - scale) 4294967295 := by
    rw [show (ofDigits (precision - scale) scale).beforeDigits = clamp (precision - scale) from rfl,
      toNat_clamp_eq_min, ← Int.toNat_sub]
  have hscale : (ofDigits (precision - scale) scale).scale.toNat = min scale 4294967295 := by
    rw [show (ofDigits (precision - scale) scale).scale = clamp scale from rfl,
      toNat_clamp_eq_min, Int.toNat_natCast]
  simp only [isExact_iff, characters, digits, ← UInt32.toNat_inj, hbefore, hscale,
    UInt32.toNat_ofNat]
  split <;> omega

end DecimalSize

/-- **The size in a type name** is that of its two numbers, whose difference is a 64-bit integer. -/
theorem decimalSizeOf_eq_ofDigits {dialect : Dialect} {sqlType : String} {size : DecimalSize}
    (h : dialect.decimalSizeOf sqlType = some size) :
    ∃ precision scale : Nat, (qualifierOf sqlType).first = some (precision : Int) ∧
      (qualifierOf sqlType).second.getD 0 = (scale : Int) ∧
      DecimalSize.ofPrecisionScale? precision scale = some size ∧
      size = .ofDigits (precision - scale) scale := by
  rw [Dialect.decimalSizeOf] at h
  obtain ⟨p, hfirst, rfl⟩ := Option.map_eq_some_iff.mp (Option.ite_none_right_eq_some.mp h).2
  obtain ⟨hp, hp'⟩ := (isUnsigned_qualifierOf sqlType).first p hfirst
  have hs : 0 ≤ (qualifierOf sqlType).second.getD 0 ∧
      (qualifierOf sqlType).second.getD 0 ≤ int64Max := by
    cases hsecond : (qualifierOf sqlType).second with
    | none => decide
    | some s => exact (isUnsigned_qualifierOf sqlType).second s hsecond
  generalize (qualifierOf sqlType).second.getD 0 = s at hs ⊢
  obtain ⟨p, rfl⟩ := Int.eq_ofNat_of_zero_le hp
  obtain ⟨s, rfl⟩ := Int.eq_ofNat_of_zero_le hs.1
  have hrange : int64Min ≤ (p : Int) - s ∧ (p : Int) - s ≤ int64Max := by
    rw [int64Min, int64Max] at *
    omega
  have hmade : DecimalSize.ofPrecisionScale? p s = some (.ofDigits (p - s) s) := if_pos hrange
  have hsize := (DecimalSize.ofPrecisionScale?_eq_some_iff.mp hmade).2.2
  exact ⟨p, s, hfirst, rfl, hmade.trans (congrArg some hsize.symm), hsize⟩

/-- **Where the counts are exact.**  All sizes that occur in a run of widenings are exact if the
characters of the last one can be counted in 32 bits, whose own counts are the greatest that the
run began with or asked for; and nothing that the program makes of a size is ever wrong, but absent
if it cannot be counted.  A precision and a scale make the size that they should if their difference
is a 64-bit integer, and none otherwise.  Those in a type name always make one; it is exact if it
has no scale or the greater number leaves room for the point. -/
theorem decimalSize_exact_iff (d : DecimalSize) (run : List DecimalSize.Widening)
    (precision scale : Int64) (dialect : Dialect) (sqlType : String) :
    ((d.widened run).beforeDigits.toNat =
        (run.map fun w => w.asked.beforeDigits.toNat).foldl max d.beforeDigits.toNat ∧
      (d.widened run).scale.toNat =
        (run.map fun w => w.asked.scale.toNat).foldl max d.scale.toNat ∧
      ((∀ done, done <+: run → (d.widened done).IsExact) ↔
        (d.widened run).characters < 4294967296)) ∧
    (d.widened run).IsCounted ∧
    ((DecimalSize.ofPrecisionScale? precision.toInt scale.toInt = none ↔
        precision.toInt - scale.toInt < int64Min ∨ int64Max < precision.toInt - scale.toInt) ∧
      ∀ size ∈ DecimalSize.ofPrecisionScale? precision.toInt scale.toInt,
        size = .ofDigits (precision.toInt - scale.toInt) scale.toInt) ∧
    ∀ size ∈ dialect.decimalSizeOf sqlType,
      ∃ precision scale : Nat, (qualifierOf sqlType).first = some (precision : Int) ∧
        (qualifierOf sqlType).second.getD 0 = (scale : Int) ∧
        DecimalSize.ofPrecisionScale? precision scale = some size ∧
        size = .ofDigits (precision - scale) scale ∧
        (size.IsExact ↔ scale = 0 ∨ max precision scale + 1 < 4294967296) := by
  refine ⟨⟨?_, ?_, DecimalSize.isExact_run_iff d run⟩, DecimalSize.isCounted _,
    ⟨DecimalSize.ofPrecisionScale?_eq_none_iff, fun size hmade => ?_⟩, fun size hsize => ?_⟩
  · exact DecimalSize.toNat_beforeDigits_widened d run
  · exact DecimalSize.toNat_scale_widened d run
  · exact (DecimalSize.ofPrecisionScale?_eq_some_iff.mp hmade).2.1.symm
  · obtain ⟨precision, scale, hfirst, hsecond, hmade, rfl⟩ := decimalSizeOf_eq_ofDigits hsize
    exact ⟨precision, scale, hfirst, hsecond, hmade, rfl,
      DecimalSize.isExact_ofDigits_sub_iff precision scale⟩

/-- No decimal with a scale is read exactly that has more digits than this one. -/
theorem decimalSizeOf_widest_exact :
    Dialect.mssql.decimalSizeOf "decimal(4294967294,1)" = some (.ofDigits 4294967293 1) ∧
    (DecimalSize.ofDigits 4294967293 1).IsExact := by
  have hread : Dialect.mssql.decimalSizeOf "decimal(4294967294,1)" =
      some (.ofDigits 4294967293 1) := by decide +kernel
  have hqualifier : qualifierOf "decimal(4294967294,1)" = ⟨some 4294967294, some 1, false⟩ := by
    decide +kernel
  obtain ⟨precision, scale, hfirst, hsecond, -, -, hexact⟩ :=
    (decimalSize_exact_iff {} [] 0 0 .mssql "decimal(4294967294,1)").2.2.2 _ hread
  simp only [hqualifier, Option.some.injEq, Option.getD_some] at hfirst hsecond
  exact ⟨hread, hexact.mpr (.inr (by omega))⟩

/-- A column of `2 ^ 32` digits, one of them behind the point, is read as a size whose digits cannot
be counted, and of which nothing can be told. -/
theorem decimalSizeOf_long_decimal :
    Dialect.mssql.decimalSizeOf "decimal(4294967296,1)" = some (.ofDigits 4294967295 1) ∧
    (DecimalSize.ofDigits 4294967295 1).digits = 4294967296 ∧
    (DecimalSize.ofDigits 4294967295 1).precision? = none ∧
    (DecimalSize.ofDigits 4294967295 1).textLength? = none ∧
    (DecimalSize.ofDigits 4294967295 1).isEmpty? = none ∧
    Dialect.mssql.types.declareDecimal? (some (.ofDigits 4294967295 1)) = none ∧
    ¬(DecimalSize.ofDigits 4294967295 1).IsExact := by
  refine ⟨by decide +kernel, by decide, by decide, by decide, by decide, by decide +kernel, ?_⟩
  rw [DecimalSize.isExact_iff]
  decide

end SqlDialects
