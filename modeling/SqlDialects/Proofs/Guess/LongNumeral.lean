import SqlDialects.Proofs.Guess.ExactDecimal

/-!
# Numerals of very many digits

A whole numeral that is too long for an integer of 64 bits is guessed as a decimal by its count of
digits (`guessColumn_long_numeral`).  The text itself may be of any length, whereas digit counts end
at the greatest 32-bit word.  From `2 ^ 32` digits on the guess asks for fewer digits than the text
has, which is why the greatest count bounds nothing in `WithinCount`.
-/

set_option autoImplicit false

namespace SqlDialects

open Text

section Digits

variable {s : Chars}

/-- Digits alone have no sign in front. -/
theorem dropSign_of_isDigit (h : ∀ c ∈ s, c.isDigit = true) : dropSign s = s := by
  have hempty : ([] : Chars) ∈ [[], ['+'], ['-']] := List.mem_cons_self
  exact dropSign_append hempty fun c hc =>
    ne_sign_of_isAnyDigit (isAnyDigit_of_isDigit (h c (List.mem_of_mem_head? hc)))

/-- Digits without a nought in front all count. -/
theorem dropLeadingZeros_of_head? (h : s.head? ≠ some '0') : dropLeadingZeros s = s := by
  cases s with
  | nil => rfl
  | cons c s => exact List.dropWhile_cons_of_neg (by simpa using h)

/-- Twenty digits are too many for 64 bits. -/
theorem readInt64_eq_none_of_length (h : ∀ c ∈ s, c.isDigit = true) (hhead : s.head? ≠ some '0')
    (hlong : 20 ≤ s.length) : readInt64 s = none := by
  by_contra hread
  obtain ⟨n, hn⟩ := Option.ne_none_iff_exists'.mp hread
  obtain ⟨-, -, hvalue⟩ := digits_of_readInt64 hn
  have hlength := length_dropLeadingZeros h
  rw [dropSign_of_isDigit h] at hvalue
  rw [dropLeadingZeros_of_head? hhead, hvalue] at hlength
  have hlarge : 10 ^ 19 ≤ n.natAbs :=
    (Nat.lt_digits_length_iff (by decide) _).mp (by omega)
  have hbounds := readInt64_bounds hn
  rw [int64Min, int64Max] at hbounds
  omega

theorem isWholeNumeral_of_isDigit (h : ∀ c ∈ s, c.isDigit = true) (hne : s ≠ []) :
    isWholeNumeral s = true := by
  simp only [isWholeNumeral, dropSign_of_isDigit h, Bool.and_eq_true, Bool.not_eq_true',
    List.isEmpty_eq_false_iff, List.all_eq_true]
  exact ⟨hne, fun c hc => isAnyDigit_of_isDigit (h c hc)⟩

/-- Digits alone can be read as a whole numeral only. -/
theorem IsNumeral.eq_of_isDigit {whole fraction : Chars} (hread : IsNumeral s whole fraction)
    (h : ∀ c ∈ s, c.isDigit = true) (hne : s ≠ []) : whole = s := by
  rcases hread.reading with ⟨-, hdrop, -⟩ | ⟨hnot, -⟩
  · exact hdrop.symm.trans (dropSign_of_isDigit h)
  · rw [isWholeNumeral_of_isDigit h hne] at hnot
    contradiction

theorem numberGuess?_long (h : ∀ c ∈ s, c.isDigit = true) (hhead : s.head? ≠ some '0')
    (hlong : 20 ≤ s.length) :
    numberGuess? s = some (.decimal (.ofDigits s.length 0)) := by
  have hne : s ≠ [] := List.ne_nil_of_length_pos (by omega)
  have hwhole := isWholeNumeral_of_isDigit h hne
  have hsigns : dropSigns s = s :=
    (dropSigns_of_isWholeNumeral hwhole).trans (dropSign_of_isDigit h)
  have hzero : hasLeadingZero s = false := by
    simp [hasLeadingZero, hsigns, hhead]
  rw [numberGuess?, hzero, if_neg Bool.false_ne_true, if_pos hwhole, wholeGuess,
    readInt64_eq_none_of_length h hhead hlong, hsigns, dropLeadingZeros_of_head? hhead,
    byteLength_of_isDigit h, Nat.max_eq_left (by omega)]

/-- **A long whole numeral** is guessed as a decimal by its digits, as many of them as can be
counted.  It has no other reading, with fewer digits. -/
theorem guessColumn_long_numeral (settings : GuessSettings) (h : ∀ c ∈ s, c.isDigit = true)
    (hhead : s.head? ≠ some '0') (hlong : 20 ≤ s.length) :
    Guesser.basic.guessColumn settings ([some (String.ofList s)].map SqlValue.ofText) =
        some (numberOf .decimal (DecimalSize.clamp s.length) 0) ∧
      ∀ whole fraction, IsNumeral s whole fraction →
        (dropLeadingZeros whole).length = s.length := by
  have hne : s ≠ [] := List.ne_nil_of_length_pos (by omega)
  have htrim : trim (String.ofList s).toList = s := by
    rw [String.toList_ofList]
    exact trim_of_solid fun c hc => isBlank_of_isDigit (h c hc)
  have hguess : guessText settings (String.ofList s) = some (.decimal (.ofDigits s.length 0)) :=
    guessText_of_numberGuess? (by rw [htrim]; exact numberGuess?_long h hhead hlong)
  constructor
  · show ([SqlValue.text (String.ofList s)].foldl (basicWiden settings) none).map dropDigits = _
    rw [List.foldl_cons, List.foldl_nil, basicWiden, guessValue, hguess]
    rfl
  · intro whole fraction hnumeral
    rw [hnumeral.eq_of_isDigit h hne, dropLeadingZeros_of_head? hhead]

end Digits

/-- There are such numerals of every length. -/
theorem exists_long_numeral (n : ℕ) (hlong : 20 ≤ n) :
    ∃ text : String,
      Guesser.basic.guessColumn {} ([some text].map SqlValue.ofText) =
          some (numberOf .decimal (DecimalSize.clamp n) 0) ∧
        ∀ whole fraction, IsNumeral (trim text.toList) whole fraction →
          (dropLeadingZeros whole).length = n := by
  have hdigits : ∀ c ∈ List.replicate n '9', c.isDigit = true := by
    intro c hc
    rw [List.eq_of_mem_replicate hc]
    rfl
  have hhead : (List.replicate n '9').head? ≠ some '0' := fun hzero =>
    absurd (List.eq_of_mem_replicate (List.mem_of_mem_head? hzero)) (by decide)
  obtain ⟨hguess, hread⟩ := guessColumn_long_numeral {} hdigits hhead
    (by rwa [List.length_replicate])
  rw [List.length_replicate] at hguess hread
  refine ⟨String.ofList (List.replicate n '9'), hguess, ?_⟩
  rwa [String.toList_ofList, trim_of_solid fun c hc => isBlank_of_isDigit (hdigits c hc)]

/-- A column of one number with `2 ^ 32` digits asks for one digit less, and a truth word with white
space around it is guessed as a truth value. -/
theorem guessColumn_uncounted_digits :
    (∃ text : String,
      Guesser.basic.guessColumn {} ([some text].map SqlValue.ofText) =
          some (numberOf .decimal 4294967295 0) ∧
        ∀ whole fraction, IsNumeral (trim text.toList) whole fraction →
          (dropLeadingZeros whole).length = 4294967296) ∧
    Guesser.basic.guessColumn {} ([some " true "].map SqlValue.ofText) = some (.ofKind .bool) ∧
      lower " true ".toList ≠ "true".toList ∧ lower " true ".toList ≠ "false".toList :=
  ⟨exists_long_numeral 4294967296 (by decide), by decide, by decide, by decide⟩

end SqlDialects
