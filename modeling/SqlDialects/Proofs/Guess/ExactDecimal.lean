import Mathlib.Data.Nat.Cast.Field
import Mathlib.Tactic.NormNum
import SqlDialects.Proofs.Calendar.Written
import SqlDialects.Proofs.Guess.Digits
import SqlDialects.Proofs.Guess.PlainNumeral

/-!
# Decimals are guessed exactly

A decimal is measured on the numeral that is printed for it, without its trailing zeros; a text is
measured as it is written.  Both are sizes of numerals, and the size of a numeral is told by its
number, so a decimal and a text for it are guessed alike.

* **Decimals.**  The digits of a decimal stand for its absolute value
  (`FixedDecimal.numeralValue_digits`), and taking zeros off does not change it
  (`FixedDecimal.value_shortened`).
* **Texts.**  `Denotes` says which number a text stands for.  Every plain numeral stands for one
  (`exists_denotes_iff`), and what is guessed as a decimal has the size of it (`eq_of_denotes`).
* `guess_decimal_exact` — the digits that are guessed are those that the number has, in both ways.
-/

set_option autoImplicit false

namespace SqlDialects

open Text

theorem numeralValue_nonneg (whole fraction : Chars) : 0 ≤ numeralValue whole fraction := by
  rw [numeralValue]
  positivity

theorem setOf_hasPlaces_abs (q : ℚ) : {k | HasPlaces |q| k} = {k | HasPlaces q k} := by
  have hneg : ∀ q k, HasPlaces q k → HasPlaces (-q) k := by
    rintro q k ⟨n, hn⟩
    exact ⟨-n, by push_cast; rw [← hn, neg_mul]⟩
  rcases abs_choice q with h | h
  · rw [h]
  · rw [h]
    exact Set.ext fun k => ⟨fun hk => neg_neg q ▸ hneg (-q) k hk, hneg q k⟩

/-! ## Decimals -/

namespace FixedDecimal

/-- The number that a decimal stands for. -/
def value (d : FixedDecimal) : ℚ :=
  (if d.negative then -1 else 1) * (d.coefficient / 10 ^ d.places)

theorem abs_value (d : FixedDecimal) : |d.value| = d.coefficient / 10 ^ d.places := by
  have hsign : |if d.negative then (-1 : ℚ) else 1| = 1 := by split <;> simp
  rw [value, abs_mul, hsign, one_mul, abs_of_nonneg (by positivity)]

theorem dropZeros_value (coefficient places : ℕ) :
    ((dropZeros coefficient places).1 : ℚ) / 10 ^ (dropZeros coefficient places).2 =
      coefficient / 10 ^ places := by
  induction places generalizing coefficient with
  | zero => rfl
  | succ places ih =>
    rw [dropZeros]
    split
    · next hzero =>
      have hcast : ((coefficient / 10 : ℕ) : ℚ) = coefficient / 10 :=
        Nat.cast_div_charZero (Nat.dvd_of_mod_eq_zero hzero)
      rw [ih, hcast, div_div, pow_succ, mul_comm 10]
    · rfl

theorem value_shortened (d : FixedDecimal) : d.shortened.value = d.value :=
  congrArg ((if d.negative then (-1 : ℚ) else 1) * ·) (dropZeros_value d.coefficient d.places)

/-- As many digits are printed behind the point as there are places. -/
theorem fractionDigits_eq (d : FixedDecimal) :
    d.fractionDigits =
      if d.places = 0 then [] else padded d.places (d.coefficient % 10 ^ d.places) :=
  rfl

theorem length_fractionDigits (d : FixedDecimal) : d.fractionDigits.length = d.places := by
  rw [fractionDigits_eq]
  split
  · next hplaces => exact hplaces.symm
  · next hplaces =>
    exact length_padded (Nat.pos_of_ne_zero hplaces) (Nat.mod_lt _ (Nat.pow_pos (by decide)))

theorem ofDigitChars_fractionDigits (d : FixedDecimal) :
    Nat.ofDigitChars 10 d.fractionDigits 0 = d.coefficient % 10 ^ d.places := by
  rw [fractionDigits_eq]
  split
  · next hplaces => rw [hplaces, Nat.pow_zero, Nat.mod_one, Nat.ofDigitChars_nil]
  · exact (readNat_eq_some_iff.mp (readNat_padded _ _)).2.2

theorem isDigit_integerDigits (d : FixedDecimal) : ∀ c ∈ d.integerDigits, c.isDigit = true :=
  fun _ hc => isDigit_of_mem_toDigits hc

theorem isDigit_fractionDigits (d : FixedDecimal) :
    ∀ c ∈ d.fractionDigits, c.isDigit = true := by
  rw [fractionDigits_eq]
  split
  · exact fun _ hc => absurd hc List.not_mem_nil
  · exact fun _ hc => isDigit_of_mem_padded hc

/-- The digits that are printed for a decimal stand for its absolute value. -/
theorem numeralValue_digits (d : FixedDecimal) :
    numeralValue d.integerDigits d.fractionDigits = |d.value| := by
  have hdigits : Nat.ofDigitChars 10 (d.integerDigits ++ d.fractionDigits) 0 = d.coefficient := by
    rw [Nat.ofDigitChars_append, Nat.ofDigitChars_eq_ofDigitChars_zero, length_fractionDigits,
      ofDigitChars_fractionDigits, integerDigits, Nat.ofDigitChars_ten_toDigits]
    exact Nat.div_add_mod _ _
  rw [numeralValue, hdigits, length_fractionDigits, abs_value]

/-- **The size of a decimal** is that of its number. -/
theorem size_eq (d : FixedDecimal) {places : ℕ}
    (hplaces : IsLeast {k | HasPlaces d.value k} places) :
    d.size = .ofDigits (Nat.digits 10 ⌊|d.value|⌋₊).length places := by
  have hvalue : numeralValue d.shortened.integerDigits d.shortened.fractionDigits = |d.value| := by
    rw [numeralValue_digits, value_shortened]
  rw [size, numeralSize_eq d.shortened.isDigit_integerDigits d.shortened.isDigit_fractionDigits
    (by rwa [hvalue, setOf_hasPlaces_abs]), hvalue]

theorem floor_abs_value (d : FixedDecimal) :
    ⌊|d.value|⌋₊ = d.coefficient / 10 ^ d.places := by
  have hcast : (10 : ℚ) ^ d.places = ((10 ^ d.places : ℕ) : ℚ) := by push_cast; rfl
  rw [abs_value, hcast, Nat.floor_div_eq_div]

/-- A decimal has no more than 29 digits before the point and 28 behind it. -/
theorem exists_places (d : FixedDecimal) :
    (Nat.digits 10 ⌊|d.value|⌋₊).length ≤ 29 ∧
      ∃ places ≤ 28, IsLeast {k | HasPlaces d.value k} places := by
  constructor
  · rw [Nat.digits_length_le_iff (by decide), floor_abs_value]
    calc d.coefficient / 10 ^ d.places ≤ d.coefficient := Nat.div_le_self _ _
      _ < Nat.pow 2 96 := d.coefficient_lt
      _ < 10 ^ 29 := by decide
  · have hleast := isLeast_hasPlaces_numeralValue d.integerDigits d.isDigit_fractionDigits
    rw [numeralValue_digits] at hleast
    have hplaces : d.places ∈ {k | HasPlaces |d.value| k} :=
      ⟨d.coefficient, by rw [abs_value]; push_cast; field_simp⟩
    exact ⟨_, (hleast.2 hplaces).trans d.places_le, setOf_hasPlaces_abs d.value ▸ hleast⟩

end FixedDecimal

/-! ## Texts -/

/-- The text is a numeral in the digits of ASCII, with a point or without, and stands for the
number. -/
def Denotes (s : Chars) (q : ℚ) : Prop :=
  ∃ sign ∈ [[], ['+'], ['-']], ∃ whole fraction,
    (s = sign ++ whole ∧ fraction = [] ∨ s = sign ++ (whole ++ '.' :: fraction)) ∧
    (∀ c ∈ whole ++ fraction, c.isDigit = true) ∧ whole ++ fraction ≠ [] ∧
    q = (if sign = ['-'] then -1 else 1) * numeralValue whole fraction

/-- Every plain numeral stands for a number, and nothing else does. -/
theorem exists_denotes_iff {s : Chars} : (∃ q, Denotes s q) ↔ IsPlainNumeral s := by
  constructor
  · rintro ⟨q, sign, hsign, whole, fraction, hs, hdigits, hne, -⟩
    exact ⟨whole, fraction, ⟨⟨sign, hsign, hs⟩, fun c hc => isAnyDigit_of_isDigit (hdigits c hc),
      hne⟩, hdigits⟩
  · rintro ⟨whole, fraction, ⟨⟨sign, hsign, hs⟩, -, hne⟩, hdigits⟩
    exact ⟨_, sign, hsign, whole, fraction, hs, hdigits, hne, rfl⟩

/-- A whole numeral that cannot be read as an integer of 64 bits is no nought, and so has a digit
that counts. -/
theorem one_le_length_of_readInt64 {s : Chars} (hne : dropSign s ≠ [])
    (hdigits : ∀ c ∈ dropSign s, c.isDigit = true) (hread : readInt64 s = none) :
    1 ≤ (dropLeadingZeros (dropSign s)).length := by
  rw [Nat.one_le_iff_ne_zero, ne_eq, List.length_eq_zero_iff]
  intro hnil
  have hvalue : Nat.ofDigitChars 10 (dropSign s) 0 = 0 := by
    rw [← ofDigitChars_dropLeadingZeros, hnil, Nat.ofDigitChars_nil]
  have hzero : (readSigned s).map Int.natAbs = some 0 := by
    rw [← readNat_dropSign, readNat_eq_some_iff]
    exact ⟨hne, hdigits, hvalue⟩
  obtain ⟨n, hn, habs⟩ := Option.map_eq_some_iff.mp hzero
  obtain rfl := Int.natAbs_eq_zero.mp habs
  rw [readInt64, readInt, hn] at hread
  exact absurd hread (by decide)

/-- **A text that is guessed as a decimal has the size of its number.** -/
theorem eq_of_denotes {s : Chars} {q : ℚ} {r : TypeRequest} (h : Denotes s q)
    (hguess : numberGuess? s = some r) (hkind : r.kind = .decimal) {places : ℕ}
    (hplaces : IsLeast {k | HasPlaces q k} places) :
    r = .decimal (.ofDigits (Nat.digits 10 ⌊|q|⌋₊).length places) := by
  obtain ⟨sign, hsign, whole, fraction, hs, hdigits, hne, rfl⟩ := h
  have hnumeral : IsNumeral s whole fraction :=
    ⟨⟨sign, hsign, hs⟩, fun c hc => isAnyDigit_of_isDigit (hdigits c hc), hne⟩
  obtain ⟨hwhole, hfraction⟩ := List.forall_mem_append.mp hdigits
  have habs : |(if sign = ['-'] then (-1 : ℚ) else 1) * numeralValue whole fraction| =
      numeralValue whole fraction := by
    have hone : |if sign = ['-'] then (-1 : ℚ) else 1| = 1 := by split <;> simp
    rw [abs_mul, hone, one_mul, abs_of_nonneg (numeralValue_nonneg _ _)]
  rw [← setOf_hasPlaces_abs, habs] at hplaces
  rw [habs, ← numeralSize_eq hwhole hfraction hplaces]
  obtain ⟨hzero, -⟩ := isSome_numberGuess?_iff.mp (Option.isSome_iff_exists.mpr ⟨r, hguess⟩)
  rw [numberGuess?, hzero, if_neg Bool.false_ne_true] at hguess
  rcases hnumeral.reading with ⟨hreading, hdrop, rfl⟩ | ⟨hreading, hparts⟩
  · rw [hreading, if_pos rfl, wholeGuess] at hguess
    cases hread : readInt64 s with
    | some n =>
      simp only [hread, Option.some.injEq] at hguess
      subst hguess
      split at hkind <;> exact TypeKind.noConfusion hkind
    | none =>
      rw [List.append_nil] at hne
      -- an integer too large to be read is a decimal by its count of digits
      have hlength := one_le_length_of_readInt64 (hdrop ▸ hne) (hdrop ▸ hwhole) hread
      rw [hdrop] at hlength
      simp only [hread, Option.some.injEq, dropSigns_of_isWholeNumeral hreading, hdrop,
        Nat.max_eq_left (hlength.trans (length_le_byteLength _))] at hguess
      exact hguess.symm
  · rw [hreading, if_neg Bool.false_ne_true, hparts] at hguess
    exact (Option.some.inj hguess).symm

/-- **Decimals are guessed exactly**, and a text that is guessed as a decimal is guessed as the
decimal that it stands for. -/
theorem guess_decimal_exact (settings : GuessSettings) (d : FixedDecimal) :
    ∃ before after : UInt32,
      guessValue settings (.decimal d) = some (.decimal ⟨some before, some after⟩) ∧
      before.toNat = (Nat.digits 10 ⌊|d.value|⌋₊).length ∧
      IsLeast {k | HasPlaces d.value k} after.toNat ∧
      ∀ (text : String) (r : TypeRequest), guessValue settings (.text text) = some r →
        r.kind = .decimal → Denotes (trim text.toList) d.value →
        r = .decimal ⟨some before, some after⟩ := by
  obtain ⟨hbefore, places, hafter, hplaces⟩ := d.exists_places
  have hclamp : ∀ n ≤ 29, (DecimalSize.clamp (n : ℕ)).toNat = n := by
    intro n hn
    rw [DecimalSize.toNat_clamp (by omega) (by omega), Int.toNat_natCast]
  refine ⟨DecimalSize.clamp (Nat.digits 10 ⌊|d.value|⌋₊).length, DecimalSize.clamp places,
    ?_, hclamp _ hbefore, ?_, ?_⟩
  · exact congrArg (fun size => some (TypeRequest.decimal size)) (d.size_eq hplaces)
  · rwa [hclamp places (hafter.trans (by decide))]
  · intro text r hguess hkind hdenotes
    have hnumber := numberGuess?_of_guessText hguess (by rw [hkind]; decide)
    exact eq_of_denotes hdenotes hnumber hkind hplaces

/-- One and a half below nought, written with three places and kept with two. -/
theorem guess_decimal_exact_negative :
    guessValue {} (.text "-1.500") =
      guessValue {} (.decimal ⟨true, 150, 2, by decide, by decide⟩) := by
  obtain ⟨before, after, hdecimal, -, -, htext⟩ :=
    guess_decimal_exact {} ⟨true, 150, 2, by decide, by decide⟩
  have hguess : guessValue {} (.text "-1.500") = some (.decimal ⟨some 1, some 1⟩) := by
    decide
  have hdenotes : Denotes (trim "-1.500".toList)
      (FixedDecimal.value ⟨true, 150, 2, by decide, by decide⟩) := by
    have hdigits : Nat.ofDigitChars 10 (['1'] ++ ['5', '0', '0']) 0 = 1500 := by decide
    refine ⟨['-'], by decide, ['1'], ['5', '0', '0'], .inr (by decide),
      List.all_eq_true.mp (by decide), by decide, ?_⟩
    rw [numeralValue, hdigits]
    norm_num [FixedDecimal.value]
  rw [hguess, hdecimal, htext "-1.500" _ hguess rfl hdenotes]

end SqlDialects
