import Mathlib.Algebra.Order.Floor.Semifield
import Mathlib.Data.List.DropRight
import Mathlib.Data.Nat.Digits.Lemmas
import Mathlib.Data.Rat.Floor
import Mathlib.Tactic.FieldSimp
import SqlDialects.Guess
import SqlDialects.Proofs.TypeName.Spelling

/-!
# Digits that count

A numeral is measured by its digits, but not by all of them: zeros in front of all other digits do
not count, and behind the point neither do those after all other digits.  What is left is as much as
the number needs, so numerals that stand for one number are measured alike, however they are
written.

* **Before the point** a numeral has as many digits that count as its whole part
  (`length_dropLeadingZeros`).
* **Behind the point** it has as many as the number has places
  (`isLeast_hasPlaces_numeralValue`).
* `numeralSize_eq` — so the size of a numeral is told by its number.
-/

set_option autoImplicit false

namespace SqlDialects

open Text

/-! ## Bytes -/

theorem byteLength_cons (c : Char) (s : Chars) :
    byteLength (c :: s) = c.utf8Size + byteLength s := by
  rw [byteLength, String.ofList_cons, String.utf8ByteSize_append, String.utf8ByteSize_singleton,
    byteLength]

/-- A character takes a byte at least. -/
theorem length_le_byteLength (s : Chars) : s.length ≤ byteLength s := by
  induction s with
  | nil => exact Nat.zero_le _
  | cons c s ih =>
    have hc := c.utf8Size_pos
    rw [byteLength_cons, List.length_cons]
    omega

/-- The digits of ASCII take a byte each. -/
theorem byteLength_of_isDigit {s : Chars} (h : ∀ c ∈ s, c.isDigit = true) :
    byteLength s = s.length := by
  induction s with
  | nil => rfl
  | cons c s ih =>
    rw [List.forall_mem_cons] at h
    have hsize : c.utf8Size = 1 := by
      rw [Char.utf8Size_eq_one_iff]
      exact UInt32.le_iff_toNat_le.mpr ((toNat_bounds_of_isDigit h.1).2.trans (by decide))
    rw [byteLength_cons, hsize, ih h.2, List.length_cons, Nat.add_comm]

theorem byteLength_le_of_sublist {s t : Chars} (h : s.Sublist t) :
    byteLength s ≤ byteLength t := by
  induction h with
  | slnil => exact Nat.le_refl _
  | cons c _ ih =>
    rw [byteLength_cons]
    exact ih.trans (Nat.le_add_left _ _)
  | cons_cons c _ ih =>
    rw [byteLength_cons, byteLength_cons]
    exact Nat.add_le_add_left ih _

/-! ## Numbers of digits -/

theorem ofDigitChars_lt {s : Chars} (h : ∀ c ∈ s, c.isDigit = true) :
    Nat.ofDigitChars 10 s 0 < 10 ^ s.length := by
  suffices hinit : ∀ init, Nat.ofDigitChars 10 s init < (init + 1) * 10 ^ s.length by
    simpa using hinit 0
  induction s with
  | nil => simp [Nat.ofDigitChars]
  | cons c s ih =>
    rw [List.forall_mem_cons] at h
    intro init
    have hc := toNat_bounds_of_isDigit h.1
    have hzero : '0'.toNat = 48 := rfl
    rw [Nat.ofDigitChars_cons, List.length_cons, Nat.pow_succ, hzero]
    calc Nat.ofDigitChars 10 s (10 * init + (c.toNat - 48))
        < (10 * init + (c.toNat - 48) + 1) * 10 ^ s.length := ih h.2 _
      _ ≤ (10 * (init + 1)) * 10 ^ s.length := Nat.mul_le_mul_right _ (by omega)
      _ = (init + 1) * (10 ^ s.length * 10) := by
        rw [Nat.mul_comm 10, Nat.mul_assoc, Nat.mul_comm 10]

theorem ofDigitChars_dropLeadingZeros (s : Chars) :
    Nat.ofDigitChars 10 (dropLeadingZeros s) 0 = Nat.ofDigitChars 10 s 0 := by
  induction s with
  | nil => rfl
  | cons c s ih =>
    by_cases hc : c = '0'
    · have hdrop : dropLeadingZeros (c :: s) = dropLeadingZeros s :=
        List.dropWhile_cons_of_pos (by simp [hc])
      rw [hdrop, ih, Nat.ofDigitChars_cons, hc]
      rfl
    · have hkeep : dropLeadingZeros (c :: s) = c :: s := List.dropWhile_cons_of_neg (by simp [hc])
      rw [hkeep]

/-- A numeral has as many digits behind its leading zeros as its number needs. -/
theorem lt_pow_length_dropLeadingZeros {s : Chars} (h : ∀ c ∈ s, c.isDigit = true) :
    Nat.ofDigitChars 10 s 0 < 10 ^ (dropLeadingZeros s).length := by
  rw [← ofDigitChars_dropLeadingZeros]
  exact ofDigitChars_lt fun c hc => h c ((List.dropWhile_suffix _).subset hc)

/-! ## Integers -/

theorem digitCount_le {n : Int} {k : Nat} (h : n.natAbs < 10 ^ k) (hk : 0 < k) :
    digitCount n ≤ k :=
  (Nat.length_toDigits_le_iff (by decide) hk).mpr h

theorem digitCount_pos (n : Int) : 0 < digitCount n := Nat.length_toDigits_pos

/-- An integer of 64 bits has few digits. -/
theorem digitCount_le_of_bounds {n : Int} (hleast : int64Min ≤ n) (hgreatest : n ≤ int64Max) :
    digitCount n ≤ 19 := by
  rw [int64Min] at hleast
  rw [int64Max] at hgreatest
  exact digitCount_le (by omega) (by decide)

/-! ## Before the point -/

/-- A digit other than nought is worth one at least. -/
theorem one_le_toNat_sub {c : Char} (h : c.isDigit = true) (hne : c ≠ '0') :
    1 ≤ c.toNat - '0'.toNat := by
  have hc := toNat_bounds_of_isDigit h
  have hzero : '0'.toNat = 48 := rfl
  have h48 : c.toNat ≠ 48 := fun heq => hne (Char.toNat_inj.mp heq)
  omega

/-- **Leading zeros do not count, and all other digits do**: without them a numeral has as many
digits as its number, of which nought has none. -/
theorem length_dropLeadingZeros {s : Chars} (h : ∀ c ∈ s, c.isDigit = true) :
    (dropLeadingZeros s).length = (Nat.digits 10 (Nat.ofDigitChars 10 s 0)).length := by
  refine le_antisymm ?_
    ((Nat.digits_length_le_iff (by decide) _).mpr (lt_pow_length_dropLeadingZeros h))
  rw [← ofDigitChars_dropLeadingZeros]
  cases hs : dropLeadingZeros s with
  | nil => exact Nat.zero_le _
  | cons c rest =>
    have hdrop : s.dropWhile (· = '0') = c :: rest := hs
    have hne : c ≠ '0' := by
      have hhead := List.head_dropWhile_not (fun c : Char => decide (c = '0'))
        (hdrop ▸ List.cons_ne_nil c rest)
      simpa [hdrop] using hhead
    have hdigit : c.isDigit = true :=
      h c ((List.dropWhile_suffix _).subset (hdrop ▸ List.mem_cons_self))
    rw [List.length_cons, Nat.succ_le_iff, Nat.lt_digits_length_iff (by decide),
      Nat.ofDigitChars_cons, Nat.ofDigitChars_eq_ofDigitChars_zero]
    have hpos : 1 ≤ 10 * 0 + (c.toNat - '0'.toNat) := by
      simpa using one_le_toNat_sub hdigit hne
    calc 10 ^ rest.length = 10 ^ rest.length * 1 := (Nat.mul_one _).symm
      _ ≤ 10 ^ rest.length * (10 * 0 + (c.toNat - '0'.toNat)) := Nat.mul_le_mul_left _ hpos
      _ ≤ _ := Nat.le_add_right _ _

/-! ## Behind the point -/

/-- Trailing zeros come off, and nothing else. -/
theorem exists_dropTrailingZeros_append (s : Chars) :
    ∃ n, s = dropTrailingZeros s ++ List.replicate n '0' := by
  have hzeros : s.reverse.takeWhile (· = '0') =
      List.replicate (s.reverse.takeWhile (· = '0')).length '0' :=
    List.eq_replicate_of_mem fun c hc => by simpa using List.mem_takeWhile_imp hc
  refine ⟨(s.reverse.takeWhile (· = '0')).length, ?_⟩
  rw [dropTrailingZeros, ← List.reverse_replicate, ← hzeros, ← List.reverse_append,
    List.takeWhile_append_dropWhile, List.reverse_reverse]

theorem dropTrailingZeros_sublist (s : Chars) : (dropTrailingZeros s).Sublist s := by
  obtain ⟨n, hs⟩ := exists_dropTrailingZeros_append s
  exact (List.sublist_append_left _ (List.replicate n '0')).trans (by rw [← hs])

/-- Before the trailing zeros stands another digit, if any. -/
theorem not_dvd_ofDigitChars_dropTrailingZeros (whole : Chars) {fraction : Chars}
    (h : ∀ c ∈ fraction, c.isDigit = true) (hne : dropTrailingZeros fraction ≠ []) :
    ¬10 ∣ Nat.ofDigitChars 10 (whole ++ dropTrailingZeros fraction) 0 := by
  obtain ⟨n, hfraction⟩ := exists_dropTrailingZeros_append fraction
  obtain ⟨front, c, hfront⟩ := (List.eq_nil_or_concat' _).resolve_left hne
  have hlast : c ≠ '0' := by
    have hdrop : fraction.rdropWhile (fun c => decide (c = '0')) = front ++ [c] := hfront
    have hnot := List.rdropWhile_last_not (fun c : Char => decide (c = '0')) fraction hne
    simpa [hdrop] using hnot
  have hdigit : c.isDigit = true := h c (by rw [hfraction, hfront]; simp)
  have hpos := one_le_toNat_sub hdigit hlast
  have hbounds := toNat_bounds_of_isDigit hdigit
  have hzero : '0'.toNat = 48 := rfl
  rw [hfront, ← List.append_assoc, Nat.ofDigitChars_append, Nat.ofDigitChars_cons,
    Nat.ofDigitChars_nil]
  omega

/-- The number that the digits before and behind a point stand for. -/
def numeralValue (whole fraction : Chars) : ℚ :=
  Nat.ofDigitChars 10 (whole ++ fraction) 0 / 10 ^ fraction.length

/-- The digits before the point are the whole part. -/
theorem floor_numeralValue (whole : Chars) {fraction : Chars}
    (h : ∀ c ∈ fraction, c.isDigit = true) :
    ⌊numeralValue whole fraction⌋₊ = Nat.ofDigitChars 10 whole 0 := by
  have hcast : (10 : ℚ) ^ fraction.length = ((10 ^ fraction.length : ℕ) : ℚ) := by push_cast; rfl
  rw [numeralValue, hcast, Nat.floor_div_eq_div, Nat.ofDigitChars_append,
    Nat.ofDigitChars_eq_ofDigitChars_zero, Nat.mul_add_div (Nat.pow_pos (by decide)),
    Nat.div_eq_of_lt (ofDigitChars_lt h), Nat.add_zero]

theorem numeralValue_dropTrailingZeros (whole fraction : Chars) :
    numeralValue whole (dropTrailingZeros fraction) = numeralValue whole fraction := by
  obtain ⟨n, hfraction⟩ := exists_dropTrailingZeros_append fraction
  generalize dropTrailingZeros fraction = kept at hfraction ⊢
  subst hfraction
  rw [numeralValue, numeralValue, ← List.append_assoc,
    Nat.ofDigitChars_append (l := whole ++ kept), Nat.ofDigitChars_replicate_zero,
    List.length_append, List.length_replicate, pow_add]
  push_cast
  field_simp

/-- With so many digits behind the point nothing of the number is left out. -/
def HasPlaces (q : ℚ) (k : ℕ) : Prop := ∃ n : ℤ, q * 10 ^ k = n

theorem isLeast_hasPlaces_div {n k : ℕ} (h : k = 0 ∨ ¬10 ∣ n) :
    IsLeast {j | HasPlaces (n / 10 ^ k) j} k := by
  refine ⟨⟨n, by push_cast; field_simp⟩, fun j hj => ?_⟩
  obtain ⟨m, hm⟩ := hj
  by_contra hlt
  rw [not_le] at hlt
  obtain ⟨i, rfl⟩ := Nat.exists_eq_add_of_lt hlt
  refine h.resolve_left (by omega) ?_
  have hnat : (n : ℚ) = 10 * (10 ^ i * m) := by
    rw [← hm]
    field_simp
    ring
  have hint : (n : ℤ) = 10 * (10 ^ i * m) := by exact_mod_cast hnat
  exact Int.natCast_dvd_natCast.mp ⟨_, hint⟩

/-- **Trailing zeros do not count, and all other digits do**: without them a numeral has as many
digits behind the point as its number needs. -/
theorem isLeast_hasPlaces_numeralValue (whole : Chars) {fraction : Chars}
    (h : ∀ c ∈ fraction, c.isDigit = true) :
    IsLeast {k | HasPlaces (numeralValue whole fraction) k}
      (dropTrailingZeros fraction).length := by
  rw [← numeralValue_dropTrailingZeros]
  refine isLeast_hasPlaces_div ?_
  rw [List.length_eq_zero_iff]
  exact or_iff_not_imp_left.mpr (not_dvd_ofDigitChars_dropTrailingZeros whole h)

/-! ## Both sides -/

theorem isDigit_dropTrailingZeros {s : Chars} (h : ∀ c ∈ s, c.isDigit = true) :
    ∀ c ∈ dropTrailingZeros s, c.isDigit = true := by
  obtain ⟨n, hs⟩ := exists_dropTrailingZeros_append s
  exact fun c hc => h c (hs ▸ List.mem_append_left _ hc)

/-- **The size of a numeral**, told by its number. -/
theorem numeralSize_eq {whole fraction : Chars} (hwhole : ∀ c ∈ whole, c.isDigit = true)
    (hfraction : ∀ c ∈ fraction, c.isDigit = true) {places : ℕ}
    (hplaces : IsLeast {k | HasPlaces (numeralValue whole fraction) k} places) :
    numeralSize whole fraction =
      .ofDigits (Nat.digits 10 ⌊numeralValue whole fraction⌋₊).length places := by
  have hleading : ∀ c ∈ dropLeadingZeros whole, c.isDigit = true := fun c hc =>
    hwhole c ((List.dropWhile_suffix _).subset hc)
  rw [numeralSize, byteLength_of_isDigit hleading,
    byteLength_of_isDigit (isDigit_dropTrailingZeros hfraction), length_dropLeadingZeros hwhole,
    floor_numeralValue whole hfraction,
    hplaces.unique (isLeast_hasPlaces_numeralValue whole hfraction)]

end SqlDialects
