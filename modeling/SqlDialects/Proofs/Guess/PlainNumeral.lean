import SqlDialects.Proofs.Calendar.Pattern
import SqlDialects.Proofs.Guess.Admission

/-!
# Which texts are guessed as numbers

The guesser takes a text for a number if it is a numeral without a leading zero
(`isSome_numberGuess?_iff`), and nothing comes before that: a numeral is no truth word
(`isTruthWord_of_isNumeral`).  The digits of such a numeral may be those of any script, whereas
integers are read, and databases read numbers, in the digits of ASCII only.

* **Plain numerals.**  `IsPlainNumeral` asks for the digits of ASCII, which says that the numeral
  holds no other characters (`isPlainNumeral_of_ascii`).
* **Integers.**  A guess for integers needs no such care, because it comes from reading the integer
  (`isSome_readInt64_iff`).
* `guess_readsNumbers_iff` — so only plain numerals are guessed as numbers, except for numerals in
  other digits.
-/

set_option autoImplicit false

namespace SqlDialects

open Text

/-! ## Digits of any script -/

section Digit

variable {c : Char}

/-- ASCII has no digits but its own. -/
theorem isDigit_of_isAnyDigit (h : isAnyDigit c = true) (hascii : c.toNat < 128) :
    c.isDigit = true := by
  have hranges : ∀ range ∈ digitRanges, range = (48, 57) ∨ 128 ≤ range.1 := by decide
  rw [isAnyDigit, CodeRanges.has, List.any_eq_true] at h
  obtain ⟨range, hrange, hc⟩ := h
  simp only [Bool.and_eq_true, decide_eq_true_eq] at hc
  rcases hranges range hrange with rfl | hbeyond
  · simpa [Char.isDigit, UInt32.le_iff_toNat_le] using hc
  · omega

theorem ne_sign_of_isAnyDigit (h : isAnyDigit c = true) : c ≠ '+' ∧ c ≠ '-' := by
  refine ⟨?_, ?_⟩ <;> rintro rfl <;> exact absurd h (by decide)

/-- Capital letters are no digits, so a digit remains what it is in lower case. -/
theorem toLower_of_isAnyDigit (h : isAnyDigit c = true) : c.toLower = c := by
  by_cases hascii : c.toNat < 128
  · exact toLower_of_isDigit (isDigit_of_isAnyDigit h hascii)
  · refine dif_neg fun hupper => hascii ?_
    simp only [ge_iff_le, UInt32.le_iff_toNat_le] at hupper
    exact hupper.2.trans_lt (by decide)

end Digit

/-! ## Reading numerals -/

theorem dropSign_append {sign s : Chars} (hsign : sign ∈ [[], ['+'], ['-']])
    (hs : ∀ c ∈ s.head?, c ≠ '+' ∧ c ≠ '-') : dropSign (sign ++ s) = s := by
  simp only [List.mem_cons, List.not_mem_nil, or_false] at hsign
  rcases hsign with rfl | rfl | rfl
  · cases s with
    | nil => rfl
    | cons c s =>
      obtain ⟨hplus, hminus⟩ := hs c rfl
      rw [List.nil_append, dropSign]
      · rintro _ ⟨⟩
        exact hplus rfl
      · rintro _ ⟨⟩
        exact hminus rfl
  · rfl
  · rfl

namespace IsNumeral

variable {s whole fraction : Chars}

/-- **How a numeral is read.**  It is a whole one, of digits alone, or it is split at its point. -/
theorem reading (h : IsNumeral s whole fraction) :
    isWholeNumeral s = true ∧ dropSign s = whole ∧ fraction = [] ∨
      isWholeNumeral s = false ∧ decimalParts? s = some (whole, fraction) := by
  obtain ⟨⟨sign, hsign, ⟨rfl, rfl⟩ | rfl⟩, hdigits, hne⟩ := h
  · rw [List.append_nil] at hdigits hne
    have hdrop : dropSign (sign ++ whole) = whole :=
      dropSign_append hsign fun c hc => ne_sign_of_isAnyDigit (hdigits c (List.mem_of_mem_head? hc))
    refine .inl ⟨?_, hdrop, rfl⟩
    simp only [isWholeNumeral, hdrop, Bool.and_eq_true, Bool.not_eq_true',
      List.isEmpty_eq_false_iff, List.all_eq_true]
    exact ⟨hne, hdigits⟩
  · rw [List.forall_mem_append] at hdigits
    rw [ne_eq, List.append_eq_nil_iff, not_and_or] at hne
    have hdrop : dropSign (sign ++ (whole ++ '.' :: fraction)) = whole ++ '.' :: fraction := by
      refine dropSign_append hsign fun c hc => ?_
      cases whole with
      | nil =>
        obtain rfl := Option.some.inj hc
        decide
      | cons d whole =>
        obtain rfl := Option.some.inj hc
        exact ne_sign_of_isAnyDigit (hdigits.1 _ List.mem_cons_self)
    -- the point ends the digits before it
    have hpoint : ¬isAnyDigit '.' = true := by decide
    have hcond : (fraction.all isAnyDigit && !(whole.isEmpty && fraction.isEmpty)) = true := by
      simpa [List.all_eq_true] using And.intro hdigits.2 hne
    refine .inr ⟨?_, ?_⟩
    · rw [isWholeNumeral, hdrop, List.all_append, List.all_cons, Bool.eq_false_iff.mpr hpoint]
      simp
    · simp only [decimalParts?, hdrop, List.takeWhile_append_of_pos hdigits.1,
        List.dropWhile_append_of_pos hdigits.1, List.takeWhile_cons_of_neg hpoint,
        List.dropWhile_cons_of_neg hpoint, List.append_nil, hcond, if_true]

theorem mem_of_mem_digits (h : IsNumeral s whole fraction) {c : Char}
    (hc : c ∈ whole ++ fraction) : c ∈ s := by
  obtain ⟨sign, -, ⟨rfl, rfl⟩ | rfl⟩ := h.spelling <;>
    simp only [List.mem_append, List.mem_cons] at hc ⊢ <;> tauto

/-- Besides its digits, a numeral holds a sign and a point at most. -/
theorem mem_cases (h : IsNumeral s whole fraction) {c : Char} (hc : c ∈ s) :
    c ∈ whole ++ fraction ∨ c ∈ ['+', '-', '.'] := by
  obtain ⟨sign, hsign, hs⟩ := h.spelling
  have hmem : c ∈ sign ∨ c ∈ whole ++ fraction ∨ c = '.' := by
    rcases hs with ⟨rfl, rfl⟩ | rfl <;> simp only [List.mem_append, List.mem_cons] at hc ⊢ <;> tauto
  simp only [List.mem_cons, List.not_mem_nil, or_false] at hsign ⊢
  rcases hmem with hmem | hmem | rfl
  · rcases hsign with rfl | rfl | rfl <;> simp_all
  · exact .inl hmem
  · simp

end IsNumeral

/-- Truth words hold no digits. -/
theorem isTruthWord_of_isNumeral {s whole fraction : Chars} (h : IsNumeral s whole fraction) :
    isTruthWord s = false := by
  obtain ⟨c, hc⟩ := List.exists_mem_of_ne_nil _ h.nonempty
  have hdigit := h.digits c hc
  have hmem : c ∈ lower s :=
    List.mem_map.mpr ⟨c, h.mem_of_mem_digits hc, toLower_of_isAnyDigit hdigit⟩
  have hwords : ∀ word ∈ ["true".toList, "false".toList], word.any isAnyDigit = false := by decide
  by_contra htruth
  rw [Bool.not_eq_false, isTruthWord, Bool.or_eq_true, beq_iff_eq, beq_iff_eq] at htruth
  have hnone := List.any_eq_false.mp (hwords (lower s) (by simpa using htruth)) c hmem
  exact hnone hdigit

/-- **Numerals without a leading zero**, and nothing else, are taken for numbers. -/
theorem isSome_numberGuess?_iff {s : Chars} :
    (numberGuess? s).isSome = true ↔
      hasLeadingZero s = false ∧ ∃ whole fraction, IsNumeral s whole fraction := by
  rw [numberGuess?]
  by_cases hzero : hasLeadingZero s = true
  · simp [hzero]
  rw [if_neg hzero]
  rw [Bool.not_eq_true] at hzero
  by_cases hwhole : isWholeNumeral s = true
  · rw [if_pos hwhole]
    exact iff_of_true rfl ⟨hzero, _, _, isNumeral_of_isWholeNumeral hwhole⟩
  rw [if_neg hwhole, Option.isSome_map]
  constructor
  · intro hparts
    obtain ⟨⟨whole, fraction⟩, hparts⟩ := Option.isSome_iff_exists.mp hparts
    exact ⟨hzero, whole, fraction, isNumeral_of_decimalParts? hparts⟩
  · rintro ⟨-, whole, fraction, h⟩
    rcases h.reading with ⟨hreading, -⟩ | ⟨-, hparts⟩
    · exact absurd hreading hwhole
    · rw [hparts]
      rfl

/-! ## Integers -/

section Integer

variable {s : Chars} {n : Int}

/-- Behind its sign, a number is read as its absolute value. -/
theorem readNat_dropSign (s : Chars) : readNat (dropSign s) = (readSigned s).map Int.natAbs := by
  have hcast : ∀ o : Option Nat, (o.map fun n => (n : Int)).map Int.natAbs = o := by
    rintro (_ | n) <;> rfl
  have hneg : ∀ o : Option Nat, (o.map fun n => -(n : Int)).map Int.natAbs = o := by
    rintro (_ | n) <;> simp
  unfold readSigned
  split
  · exact (hneg _).symm
  · exact (hcast _).symm
  · next hminus hplus =>
    have hsign : dropSign s = s := by
      unfold dropSign
      split
      · exact absurd rfl (hplus _)
      · exact absurd rfl (hminus _)
      · rfl
    rw [hsign]
    exact (hcast _).symm

theorem readInt64_bounds (h : readInt64 s = some n) : int64Min ≤ n ∧ n ≤ int64Max := by
  simpa using (Option.filter_eq_some_iff.mp h).2

theorem digits_of_readInt64 (h : readInt64 s = some n) :
    dropSign s ≠ [] ∧ (∀ c ∈ dropSign s, c.isDigit = true) ∧
      Nat.ofDigitChars 10 (dropSign s) 0 = n.natAbs := by
  rw [← readNat_eq_some_iff, readNat_dropSign, (Option.filter_eq_some_iff.mp h).1]
  rfl

theorem isWholeNumeral_of_readInt64 (h : readInt64 s = some n) : isWholeNumeral s = true := by
  obtain ⟨hne, hdigits, -⟩ := digits_of_readInt64 h
  simp only [isWholeNumeral, Bool.and_eq_true, Bool.not_eq_true', List.isEmpty_eq_false_iff,
    List.all_eq_true]
  exact ⟨hne, fun c hc => isAnyDigit_of_isDigit (hdigits c hc)⟩

theorem isTruthWord_of_readInt64 (h : readInt64 s = some n) : isTruthWord s = false :=
  isTruthWord_of_isNumeral (isNumeral_of_isWholeNumeral (isWholeNumeral_of_readInt64 h))

end Integer

/-- The kinds of numbers that texts are guessed as. -/
def textNumberKinds : List TypeKind := [.int32, .int64, .decimal]

/-- **Integers are guessed from reading them**, so that a number that is none of them is too large
or has a point or other digits. -/
theorem isSome_readInt64_iff {s : Chars} {r : TypeRequest} (h : numberGuess? s = some r) :
    r.kind ∈ textNumberKinds ∧
      (r.kind = .int32 ∨ r.kind = .int64 ↔ (readInt64 s).isSome = true) := by
  rw [numberGuess?] at h
  split at h
  · contradiction
  split at h
  · rw [← Option.some.inj h, wholeGuess]
    cases hread : readInt64 s with
    | none => exact ⟨by simp [textNumberKinds, TypeRequest.decimal], by simp [TypeRequest.decimal]⟩
    | some n =>
      simp only
      split <;> exact ⟨by simp [textNumberKinds, integerGuess], by simp [integerGuess]⟩
  · next hwhole =>
    obtain ⟨parts, -, rfl⟩ := Option.map_eq_some_iff.mp h
    refine ⟨by simp [textNumberKinds, TypeRequest.decimal],
      iff_of_false (by simp [TypeRequest.decimal]) fun hread => hwhole ?_⟩
    obtain ⟨n, hn⟩ := Option.isSome_iff_exists.mp hread
    exact isWholeNumeral_of_readInt64 hn

/-! ## Plain numerals -/

/-- The text is a numeral in the digits of ASCII: a sign or none, digits, and at most one point
before, among or behind them. -/
def IsPlainNumeral (s : Chars) : Prop :=
  ∃ whole fraction, IsNumeral s whole fraction ∧ ∀ c ∈ whole ++ fraction, c.isDigit = true

theorem isPlainNumeral_of_ascii {s whole fraction : Chars} (h : IsNumeral s whole fraction)
    (hascii : ∀ c ∈ s, c.toNat < 128) : IsPlainNumeral s :=
  ⟨whole, fraction, h, fun c hc =>
    isDigit_of_isAnyDigit (h.digits c hc) (hascii c (h.mem_of_mem_digits hc))⟩

theorem IsPlainNumeral.ascii {s : Chars} (h : IsPlainNumeral s) : ∀ c ∈ s, c.toNat < 128 := by
  obtain ⟨whole, fraction, hnumeral, hdigits⟩ := h
  intro c hc
  have hmarks : ['+', '-', '.'].all (·.toNat < 128) = true := by decide
  rcases hnumeral.mem_cases hc with hdigit | hmark
  · have hbounds := toNat_bounds_of_isDigit (hdigits c hdigit)
    omega
  · exact of_decide_eq_true (List.all_eq_true.mp hmarks c hmark)

/-! ## Guesses -/

/-- What a guess should say about numbers.  Numbers are guessed from plain numerals alone, and
integers from those that can be read as integers; all other texts are something else. -/
structure ReadsNumbers (text : String) (r : TypeRequest) : Prop where
  plain : r.kind ∈ textNumberKinds → IsPlainNumeral (trim text.toList)
  integer : r.kind ∈ textNumberKinds →
    (r.kind = .int32 ∨ r.kind = .int64 ↔ (SqlValue.integer? (.text text)).isSome = true)
  other : ¬IsPlainNumeral (trim text.toList) → r.kind ∈ [.bool, .dateTime, .timeSpan, .string]

section Guess

variable {settings : GuessSettings} {text : String} {r : TypeRequest}

theorem guessedAs_of_guessText (h : guessText settings text = some r) :
    GuessedAs settings text r := by
  rw [guessText_eq] at h
  split at h
  · contradiction
  · exact Option.some.inj h ▸ guessedAs_guessOf settings text

/-- Guesses for numbers come from numerals. -/
theorem numberGuess?_of_guessText (h : guessText settings text = some r)
    (hkind : r.kind ∈ textNumberKinds) : numberGuess? (trim text.toList) = some r := by
  have hguess := guessedAs_of_guessText h
  cases hguess with
  | number _ hnumber => exact hnumber
  | truth | date | time => exact absurd hkind (by decide)
  | string => simp [textNumberKinds, stringGuess, TypeRequest.string] at hkind

/-- A numeral that is taken for a number is guessed as that number. -/
theorem guessText_of_numberGuess? (h : numberGuess? (trim text.toList) = some r) :
    guessText settings text = some r := by
  obtain ⟨-, whole, fraction, hnumeral⟩ := isSome_numberGuess?_iff.mp
    (Option.isSome_iff_exists.mpr ⟨r, h⟩)
  obtain ⟨c, hc⟩ := List.exists_mem_of_ne_nil _ hnumeral.nonempty
  have hne : (trim text.toList).isEmpty = false :=
    List.isEmpty_eq_false_iff.mpr (List.ne_nil_of_mem (hnumeral.mem_of_mem_digits hc))
  simp only [guessText, hne, isTruthWord_of_isNumeral hnumeral, h, Bool.false_eq_true, if_false]

/-- Numbers are guessed as they should be, unless the text is a numeral without a leading zero in
digits other than those of ASCII. -/
theorem readsNumbers_iff_of_guessText (hguess : guessText settings text = some r) :
    ReadsNumbers text r ↔
      ((∃ whole fraction, IsNumeral (trim text.toList) whole fraction) →
        hasLeadingZero (trim text.toList) = false → ∀ c ∈ trim text.toList, c.toNat < 128) := by
  constructor
  · intro hreads hnumeral hzero
    obtain ⟨g, hg⟩ := Option.isSome_iff_exists.mp (isSome_numberGuess?_iff.mpr ⟨hzero, hnumeral⟩)
    obtain rfl := Option.some.inj ((guessText_of_numberGuess? hg).symm.trans hguess)
    exact (hreads.plain (isSome_readInt64_iff hg).1).ascii
  · intro hascii
    have hplain : r.kind ∈ textNumberKinds → IsPlainNumeral (trim text.toList) := by
      intro hkind
      have hnumber := numberGuess?_of_guessText hguess hkind
      obtain ⟨hzero, whole, fraction, hnumeral⟩ := isSome_numberGuess?_iff.mp
        (Option.isSome_iff_exists.mpr ⟨r, hnumber⟩)
      exact isPlainNumeral_of_ascii hnumeral (hascii ⟨whole, fraction, hnumeral⟩ hzero)
    refine ⟨hplain, fun hkind => ?_, fun hnot => ?_⟩
    · exact (isSome_readInt64_iff (numberGuess?_of_guessText hguess hkind)).2
    · have hcases := guessedAs_of_guessText hguess
      cases hcases with
      | number _ hnumber => exact absurd (hplain (isSome_readInt64_iff hnumber).1) hnot
      | truth | date | time => decide
      | string => simp [stringGuess, TypeRequest.string]

end Guess

/-- **Only plain numerals are guessed as numbers.**  Every text that is not blank is guessed, and as
a number only if it is a plain numeral, unless it is a numeral without a leading zero in digits
other than those of ASCII. -/
theorem guess_readsNumbers_iff (settings : GuessSettings) (text : String) :
    ((∃ r, guessValue settings (.text text) = some r) ↔ isBlankText text = false) ∧
    ∀ r, guessValue settings (.text text) = some r →
      (ReadsNumbers text r ↔
        ((∃ whole fraction, IsNumeral (trim text.toList) whole fraction) →
          hasLeadingZero (trim text.toList) = false → ∀ c ∈ trim text.toList, c.toNat < 128)) := by
  have hguess : guessValue settings (.text text) =
      if isBlankText text = true then none else some (guessOf settings text) :=
    guessText_eq settings text
  refine ⟨?_, fun r hr => readsNumbers_iff_of_guessText hr⟩
  rw [hguess]
  cases isBlankText text <;> simp

/-- A numeral with a sign and a point, and white space around it. -/
theorem guess_readsNumbers_signed :
    guessValue {} (.text " -12.50 ") = some (.decimal ⟨some 2, some 1⟩) ∧
      ReadsNumbers " -12.50 " (.decimal ⟨some 2, some 1⟩) := by
  have h : guessValue {} (.text " -12.50 ") = some (.decimal ⟨some 2, some 1⟩) := by
    decide
  have hascii : (trim " -12.50 ".toList).all (·.toNat < 128) = true := by decide
  exact ⟨h, ((guess_readsNumbers_iff {} " -12.50 ").2 _ h).mpr fun _ _ c hc =>
    of_decide_eq_true (List.all_eq_true.mp hascii c hc)⟩

/-- The Arabic digit three is guessed as a decimal, of two digits because it takes two bytes. -/
theorem guess_number_in_other_digits :
    guessValue {} (.text "٣") = some (.decimal ⟨some 2, some 0⟩) ∧
      ¬IsPlainNumeral (trim "٣".toList) ∧
      ¬ReadsNumbers "٣" (.decimal ⟨some 2, some 0⟩) := by
  have hplain : ¬IsPlainNumeral (trim "٣".toList) := fun h =>
    absurd (h.ascii '٣' (by decide)) (by decide)
  exact ⟨by decide, hplain, fun h => hplain (h.plain (by decide))⟩

end SqlDialects
