import Mathlib.Algebra.Group.Nat.Defs
import SqlDialects.CreateTable.Plan
import SqlDialects.Proofs.Guess.ExactDecimal
import SqlDialects.Proofs.Guess.MixedColumn
import SqlDialects.Proofs.TypeName.Spelling

/-!
# Typed columns of integers

A column that is declared for integers keeps its kind if all values lie in its range, and is widened
by what the values are guessed as otherwise.  Whether a value lies in the range is asked of the
integer that it stands for, and how far to widen of the guesser, and the two do not read values
alike: a numeral with a leading zero stands for an integer and is guessed as a string, and a text
behind typed truth values makes a string of them.

* **Values.**  `guess_of_integer` — the three ways in which a value that stands for an integer is
  guessed: as a truth value, as a code, or as a number with room for the integer.
* **Columns.**  `turnsNumeric_iff` — the guesser sees numbers just when `ReadAsNumbers` holds.
* **Types.**  `typedColumnType_fits_iff` — the type of the column fits its integers just when they
  lie in the declared range or are read as numbers.
-/

set_option autoImplicit false

namespace SqlDialects

open Text

/-! ## Digits -/

theorem le_toNat_clamp {m k : Nat} (h : m ≤ k) (hm : m ≤ 4294967295) :
    m ≤ (DecimalSize.clamp k).toNat := by
  rw [DecimalSize.clamp, UInt32.toNat_ofNat']
  omega

/-! ## Numerals -/

/-- The guess for a numeral that stands for an integer has room for it. -/
theorem wholeGuess_of_readInt64 {s : Chars} {n : Int} (h : readInt64 s = some n) :
    ((wholeGuess s).kind = .int64 ∨
      (wholeGuess s).kind = .int32 ∧ -2147483648 ≤ n ∧ n ≤ 2147483647) ∧
    digitCount n ≤ (wholeGuess s).digits.beforeDigits.toNat := by
  obtain ⟨-, hdigits, hvalue⟩ := digits_of_readInt64 h
  obtain ⟨hleast, hgreatest⟩ := readInt64_bounds h
  have hlong := digitCount_le_of_bounds hleast hgreatest
  have hcount : digitCount n ≤ max (byteLength (dropLeadingZeros (dropSigns s))) 1 := by
    rw [dropSigns_of_isWholeNumeral (isWholeNumeral_of_readInt64 h)]
    have hlength := length_le_byteLength (dropLeadingZeros (dropSign s))
    have hlt := lt_pow_length_dropLeadingZeros hdigits
    rw [hvalue] at hlt
    refine digitCount_le (hlt.trans_le (Nat.pow_le_pow_right (by decide) ?_)) (by omega)
    omega
  have hclamp := le_toNat_clamp hcount (by omega)
  rw [wholeGuess, h]
  simp only
  split
  · next hbounds => exact ⟨.inr ⟨rfl, hbounds⟩, hclamp⟩
  · exact ⟨.inl rfl, hclamp⟩

/-! ## Decimals -/

/-- The size of a decimal has room for the integer that it stands for; nought needs none. -/
theorem digitCount_le_size {d : FixedDecimal} {n : Int} (h : d.toInt64? = some n) (hn : n ≠ 0) :
    digitCount n ≤ d.size.beforeDigits.toNat := by
  have hint : -9223372036854775808 ≤ n ∧ n ≤ 9223372036854775807 ∧
      n.natAbs = d.coefficient / 10 ^ d.places := by
    simp only [FixedDecimal.toInt64?] at h
    split at h
    · obtain ⟨hvalue, hbounds⟩ := Option.filter_eq_some_iff.mp h
      have hbounds' : int64Min ≤ n ∧ n ≤ int64Max := by simpa using hbounds
      refine ⟨hbounds'.1, hbounds'.2, ?_⟩
      rw [← Option.some.inj hvalue]
      split
      · rw [Int.natAbs_neg]
        exact Int.natAbs_natCast _
      · exact Int.natAbs_natCast _
    · contradiction
  obtain ⟨hleast, hgreatest, hvalue⟩ := hint
  have hlong := digitCount_le_of_bounds hleast hgreatest
  obtain ⟨-, places, -, hplaces⟩ := d.exists_places
  have hlt : n.natAbs < 10 ^ (Nat.digits 10 ⌊|d.value|⌋₊).length := by
    rw [d.floor_abs_value, ← hvalue]
    exact Nat.lt_base_pow_length_digits (by decide)
  have hpos : 0 < (Nat.digits 10 ⌊|d.value|⌋₊).length := by
    by_contra hzero
    rw [Nat.eq_zero_of_not_pos hzero] at hlt
    omega
  rw [d.size_eq hplaces]
  exact le_toNat_clamp (digitCount_le hlt hpos) (by omega)

/-! ## Values -/

/-- Whether a value is a truth value of its own type. -/
def SqlValue.isBool : SqlValue → Bool
  | .bool _ => true
  | _ => false

/-- Whether a value is a text with a leading zero: a code rather than a number. -/
def SqlValue.isCode : SqlValue → Bool
  | .text s => hasLeadingZero (trim s.toList)
  | _ => false

/-- The ways in which a value that stands for an integer is guessed. -/
inductive IntegerGuess (v : SqlValue) (n : Int) (g : TypeRequest) : Prop
  | truth (hv : v.isBool = true) (hkind : g.kind = .bool) (hn : n = 0 ∨ n = 1) :
    IntegerGuess v n g
  | code (hv : v.isCode = true) (hbool : g.kind ≠ .bool) (hnumeric : g.kind.isNumeric = false) :
    IntegerGuess v n g
  | number (hbool : v.isBool = false) (hcode : v.isCode = false)
    (hnumeric : g.kind.isNumeric = true)
    (hrange : ∀ bounds ∈ g.kind.integerRange, bounds.1 ≤ n ∧ n ≤ bounds.2)
    (hdigits : n ≠ 0 → digitCount n ≤ g.digits.beforeDigits.toNat) : IntegerGuess v n g

/-- A typed integer is guessed as what it is. -/
theorem integerGuess_of_range {v : SqlValue} {n : Int} {kind : TypeKind} {bounds : Int × Int}
    (hv : v.isBool = false) (hcode : v.isCode = false) (hrange : kind.integerRange = some bounds)
    (hn : bounds.1 ≤ n ∧ n ≤ bounds.2) : IntegerGuess v n (integerGuess kind (digitCount n)) := by
  have hint : kind.isNumeric = true ∧ int64Min ≤ bounds.1 ∧ bounds.2 ≤ int64Max := by
    cases kind <;> first | contradiction | (obtain rfl := Option.some.inj hrange; decide)
  obtain ⟨hnumeric, hleast, hgreatest⟩ := hint
  refine .number hv hcode hnumeric (fun bounds' hbounds => ?_) fun _ => ?_
  · obtain rfl := Option.some.inj (hrange.symm.trans hbounds)
    exact hn
  · have hlong := digitCount_le_of_bounds (hleast.trans hn.1) (hn.2.trans hgreatest)
    exact le_toNat_clamp (Nat.le_refl _) (by omega)

/-- A numeral that stands for an integer is guessed as a number, unless it is a code. -/
theorem integerGuess_of_text (settings : GuessSettings) {s : String} {n : Int}
    (h : readInt64 (trim s.toList) = some n) :
    ∃ g, guessText settings s = some g ∧ IntegerGuess (.text s) n g := by
  by_cases hcode : hasLeadingZero (trim s.toList) = true
  · -- a code is a date, a time or a string, and none of them is numeric
    have htruth := isTruthWord_of_readInt64 h
    have hne : (trim s.toList).isEmpty = false := by
      rw [List.isEmpty_eq_false_iff]
      intro hnil
      rw [hnil] at h
      contradiction
    have hnone : numberGuess? (trim s.toList) = none := by rw [numberGuess?, if_pos hcode]
    have hstring : (stringGuess settings s.toList).kind = .string := rfl
    simp only [guessText, hne, htruth, hnone, Bool.false_eq_true, if_false]
    split
    · exact ⟨_, rfl, .code hcode (by decide) rfl⟩
    split
    · exact ⟨_, rfl, .code hcode (by decide) rfl⟩
    · exact ⟨_, rfl, .code hcode (by rw [hstring]; decide) rfl⟩
  · rw [Bool.not_eq_true] at hcode
    have hnumber : numberGuess? (trim s.toList) = some (wholeGuess (trim s.toList)) := by
      rw [numberGuess?, hcode, if_neg Bool.false_ne_true,
        if_pos (isWholeNumeral_of_readInt64 h)]
    refine ⟨_, guessText_of_numberGuess? hnumber, ?_⟩
    obtain ⟨hkind, hdigits⟩ := wholeGuess_of_readInt64 h
    rcases hkind with hkind | ⟨hkind, hleast, hgreatest⟩
    · refine .number rfl hcode (by rw [hkind]; rfl) (fun bounds hbounds => ?_) fun _ => hdigits
      rw [hkind] at hbounds
      obtain rfl := Option.some.inj hbounds
      exact readInt64_bounds h
    · refine .number rfl hcode (by rw [hkind]; rfl) (fun bounds hbounds => ?_) fun _ => hdigits
      rw [hkind] at hbounds
      obtain rfl := Option.some.inj hbounds
      exact ⟨hleast, hgreatest⟩

/-- **How a value that stands for an integer is guessed.** -/
theorem guess_of_integer (settings : GuessSettings) {v : SqlValue} {n : Int}
    (h : v.integer? = some n) : ∃ g, guessValue settings v = some g ∧ IntegerGuess v n g := by
  cases v with
  | bool b =>
    refine ⟨_, rfl, .truth rfl rfl ?_⟩
    obtain rfl := Option.some.inj h
    cases b <;> simp
  | byte w =>
    obtain rfl := Option.some.inj h
    have hw := w.toNat_lt
    refine ⟨_, rfl, integerGuess_of_range rfl rfl rfl ?_⟩
    simp only
    omega
  | int16 w =>
    obtain rfl := Option.some.inj h
    have hlt := w.toInt_lt
    exact ⟨_, rfl, integerGuess_of_range rfl rfl rfl ⟨w.le_toInt, by simp only; omega⟩⟩
  | int32 w =>
    obtain rfl := Option.some.inj h
    have hlt := w.toInt_lt
    exact ⟨_, rfl, integerGuess_of_range rfl rfl rfl ⟨w.le_toInt, by simp only; omega⟩⟩
  | int64 w =>
    obtain rfl := Option.some.inj h
    have hlt := w.toInt_lt
    exact ⟨_, rfl, integerGuess_of_range rfl rfl rfl ⟨w.le_toInt, by simp only; omega⟩⟩
  | decimal d =>
    refine ⟨_, rfl, .number rfl rfl rfl (fun bounds hbounds => by contradiction) fun hn => ?_⟩
    exact digitCount_le_size h hn
  | text s => exact integerGuess_of_text settings h
  | _ => contradiction

/-! ## Columns -/

/-- Whether a value says nothing or stands for an integer. -/
def SqlValue.ReadsInteger (v : SqlValue) : Prop := v.isNull = true ∨ ∃ n, v.integer? = some n

/-- **When the guesser sees numbers in a column of integers.**  No text has a leading zero, and the
first value that is neither null nor a typed truth value is no text, or there are no truth values in
front of it. -/
def ReadAsNumbers (values : List SqlValue) : Prop :=
  (∀ v ∈ values, v.isCode = false) ∧
    ∃ front number back, values = front ++ number :: back ∧
      (∀ v ∈ front, v.isNull = true ∨ v.isBool = true) ∧
      (number.isNull = false ∧ number.isBool = false) ∧
      (number.isText = false ∨ ∀ v ∈ front, v.isNull = true)

section Value

variable (settings : GuessSettings) {v : SqlValue}

theorem guessKind?_of_isNull (h : v.isNull = true) : guessKind? settings v = none := by
  cases v <;> first | contradiction | rfl

theorem isNull_of_integer {n : Int} (h : v.integer? = some n) : v.isNull = false := by
  cases v <;> first | rfl | contradiction

theorem isText_of_isCode (h : v.isCode = true) : v.isText = true ∧ v.isBool = false := by
  cases v <;> first | exact ⟨rfl, rfl⟩ | contradiction

/-- What the kind of a guess says about a value that stands for an integer, if for anything. -/
theorem guessKind?_cases (h : v.ReadsInteger) :
    (v.isNull = true ∧ v.isCode = false ∧ guessKind? settings v = none) ∨
    (v.isNull = false ∧ v.isBool = true ∧ v.isCode = false ∧ v.isText = false ∧
      guessKind? settings v = some .bool) ∨
    (v.isNull = false ∧ v.isBool = false ∧ ∃ k, guessKind? settings v = some k ∧ k ≠ .bool ∧
      k.isNumeric = !v.isCode) := by
  rcases h with hnull | ⟨n, hn⟩
  · refine .inl ⟨hnull, ?_, guessKind?_of_isNull settings hnull⟩
    cases v <;> first | contradiction | rfl
  · have hnull := isNull_of_integer hn
    obtain ⟨g, hg, hguess⟩ := guess_of_integer settings hn
    have hkind : guessKind? settings v = some g.kind := by rw [guessKind?, hg, Option.map_some]
    rw [hkind]
    cases hguess with
    | truth hv hbool =>
      have htext : v.isCode = false ∧ v.isText = false := by
        cases v <;> first | contradiction | exact ⟨rfl, rfl⟩
      exact .inr (.inl ⟨hnull, hv, htext.1, htext.2, by rw [hbool]⟩)
    | code hv hbool hnumeric =>
      exact .inr (.inr ⟨hnull, (isText_of_isCode hv).2, _, rfl, hbool, by rw [hnumeric, hv]; rfl⟩)
    | number hbool hcode hnumeric =>
      exact .inr (.inr ⟨hnull, hbool, _, rfl, not_bool_of_isNumeric hnumeric,
        by rw [hnumeric, hcode]; rfl⟩)

theorem guessKind?_eq_none_iff (h : v.ReadsInteger) :
    guessKind? settings v = none ↔ v.isNull = true := by
  rcases guessKind?_cases settings h with
    ⟨hnull, -, hk⟩ | ⟨hnull, -, -, -, hk⟩ | ⟨hnull, -, k, hk, -⟩ <;> simp [hnull, hk]

theorem guessKind?_bool_iff (h : v.ReadsInteger) :
    (∀ k ∈ guessKind? settings v, k = .bool) ↔ v.isNull = true ∨ v.isBool = true := by
  rcases guessKind?_cases settings h with ⟨hnull, -, hk⟩ | ⟨-, hbool, -, -, hk⟩ |
      ⟨hnull, hbool, k, hk, hne, -⟩
  · simp [hnull, hk]
  · simp [hbool, hk]
  · simp [hnull, hbool, hk, hne]

theorem guessKind?_isNumeric_iff (h : v.ReadsInteger) :
    (∃ k ∈ guessKind? settings v, k.isNumeric = true) ↔
      (v.isNull = false ∧ v.isBool = false) ∧ v.isCode = false := by
  have hbool' : TypeKind.bool.isNumeric = false := rfl
  rcases guessKind?_cases settings h with ⟨hnull, -, hk⟩ | ⟨-, hbool, -, -, hk⟩ |
      ⟨hnull, hbool, k, hk, -, hnumeric⟩
  · simp [hnull, hk]
  · simp [hbool, hk, hbool']
  · simp [hnull, hbool, hk, hnumeric]

/-- Codes alone keep numbers from staying numbers. -/
theorem guessKind?_keepsNumeric_iff (h : v.ReadsInteger) :
    (∀ k ∈ guessKind? settings v, k.isNumeric = true ∨ k = .bool ∧ v.isText = false) ↔
      v.isCode = false := by
  rcases guessKind?_cases settings h with ⟨-, hcode, hk⟩ | ⟨-, -, hcode, htext, hk⟩ |
      ⟨-, -, k, hk, hne, hnumeric⟩
  · simp [hcode, hk]
  · simp [hcode, htext, hk]
  · simp [hk, hne, hnumeric]

theorem isCode_of_isNull_or_isBool (h : v.isNull = true ∨ v.isBool = true) : v.isCode = false := by
  rcases h with h | h <;> cases v <;> first | contradiction | rfl

end Value

/-- **A column of integers turns numeric just when the guesser sees numbers in it.** -/
theorem turnsNumeric_iff {settings : GuessSettings} {values : List SqlValue}
    (h : ∀ v ∈ values, v.ReadsInteger) : TurnsNumeric settings values ↔ ReadAsNumbers values := by
  constructor
  · rintro ⟨front, number, back, rfl, hfront, hnumber, htyped, hback⟩
    simp only [List.forall_mem_append, List.forall_mem_cons] at h
    obtain ⟨hreadFront, hreadNumber, hreadBack⟩ := h
    obtain ⟨hplain, hcode⟩ := (guessKind?_isNumeric_iff settings hreadNumber).mp hnumber
    have hfront' : ∀ v ∈ front, v.isNull = true ∨ v.isBool = true := fun v hv =>
      (guessKind?_bool_iff settings (hreadFront v hv)).mp (hfront v hv)
    refine ⟨?_, front, number, back, rfl, hfront', hplain, htyped.imp_right fun hnone v hv =>
      (guessKind?_eq_none_iff settings (hreadFront v hv)).mp (hnone v hv)⟩
    simp only [List.forall_mem_append, List.forall_mem_cons]
    exact ⟨fun v hv => isCode_of_isNull_or_isBool (hfront' v hv), hcode, fun v hv =>
      (guessKind?_keepsNumeric_iff settings (hreadBack v hv)).mp (hback v hv)⟩
  · rintro ⟨hcode, front, number, back, rfl, hfront, hplain, htyped⟩
    simp only [List.forall_mem_append, List.forall_mem_cons] at h hcode
    obtain ⟨hreadFront, hreadNumber, hreadBack⟩ := h
    exact ⟨front, number, back, rfl,
      fun v hv => (guessKind?_bool_iff settings (hreadFront v hv)).mpr (hfront v hv),
      (guessKind?_isNumeric_iff settings hreadNumber).mpr ⟨hplain, hcode.2.1⟩,
      htyped.imp_right fun hnull v hv => guessKind?_of_isNull settings (hnull v hv),
      fun v hv => (guessKind?_keepsNumeric_iff settings (hreadBack v hv)).mpr
        (hcode.2.2 v hv)⟩

/-! ## Types -/

/-- Whether all integers of a column lie in the range of a kind. -/
def AllWithin (kind : TypeKind) (values : List SqlValue) : Prop :=
  ∀ v ∈ values, ∀ n ∈ v.integer?, ∃ bounds ∈ kind.integerRange, bounds.1 ≤ n ∧ n ≤ bounds.2

/-- Whether a type has room for an integer: in its range, or in its digits before the point. -/
def TypeRequest.HasRoomFor (r : TypeRequest) (n : Int) : Prop :=
  (∃ bounds ∈ r.kind.integerRange, bounds.1 ≤ n ∧ n ≤ bounds.2) ∨
    r.kind = .decimal ∧ ∃ size ∈ r.decimalSize, digitCount n ≤ size.beforeDigits.toNat

/-- **A type fits the integers of a column** declared for a kind: it is that kind if the integers
lie in its range, and otherwise one that is farther up the chain of numbers and has room for
them. -/
structure FitsIntegers (kind : TypeKind) (values : List SqlValue) (r : TypeRequest) : Prop where
  kept : AllWithin kind values → r = .ofKind kind
  widened : ¬AllWithin kind values → r.kind.isNumeric = true ∧
    kind.numericRank.getD 0 < r.kind.numericRank.getD 0 ∧
    ∀ v ∈ values, ∀ n ∈ v.integer?, r.HasRoomFor n

/-- The kinds of integers. -/
def TypeKind.integers : List TypeKind := [.byte, .int16, .int32, .int64]

/-- They are numeric and no decimals, and have a range. -/
theorem TypeKind.of_mem_integers {k : TypeKind} (h : k ∈ TypeKind.integers) :
    k.isNumeric = true ∧ k ≠ .decimal ∧ k.integerRange.isSome = true := by
  have hall : ∀ k ∈ TypeKind.integers, k.isNumeric = true ∧ k ≠ .decimal ∧
      k.integerRange.isSome = true := by decide
  exact hall k h

/-- Nulls are left out before the values are looked at, which changes nothing. -/
theorem foldl_filter_isNull (settings : GuessSettings) (values : List SqlValue) :
    (values.filter fun v => !v.isNull).foldl (basicWiden settings) none =
      observed settings values := by
  rw [List.foldl_filter, observed]
  congr 1
  funext sofar v
  cases hnull : v.isNull with
  | false => rfl
  | true =>
    have hv : guessValue settings v = none := by cases v <;> first | contradiction | rfl
    rw [basicWiden, hv]
    cases sofar <;> rfl

theorem allInRange_iff {kind : TypeKind} (hkind : kind ∈ TypeKind.integers)
    {values : List SqlValue} (h : ∀ v ∈ values, v.ReadsInteger) :
    allInRange kind (values.filter fun v => !v.isNull) = true ↔ AllWithin kind values := by
  obtain ⟨bounds, hbounds⟩ : ∃ bounds, kind.integerRange = some bounds :=
    Option.isSome_iff_exists.mp (TypeKind.of_mem_integers hkind).2.2
  rw [allInRange, AllWithin, hbounds]
  simp only [List.all_eq_true, List.mem_filter]
  refine forall_congr' fun v => ?_
  constructor
  · intro hall hv n hn
    have hin := hall ⟨hv, by simp [isNull_of_integer hn]⟩
    rw [hn] at hin
    exact ⟨bounds, rfl, by simpa using hin⟩
  · rintro hall ⟨hv, hnull⟩
    rcases h v hv with hnull' | ⟨n, hn⟩
    · simp [hnull'] at hnull
    · obtain ⟨bounds', hbounds', hin⟩ := hall hv n hn
      obtain rfl := Option.some.inj hbounds'
      rw [hn]
      simpa using hin

/-! ## Room -/

namespace TypeKind

/-- Numbers have room for numbers and truth values only. -/
theorem isNumeric_or_eq_bool_of_hasRoomFor {k j : TypeKind} (h : k.hasRoomFor j = true)
    (hk : k.isNumeric = true) : j.isNumeric = true ∨ j = .bool := by
  have hall : ∀ j ∈ all, ∀ k ∈ all, k.hasRoomFor j = true → k.isNumeric = true →
      j.isNumeric = true ∨ j = .bool := by decide
  exact hall j j.mem_all k k.mem_all h hk

/-- A kind of numbers with room for another one is farther up the chain. -/
theorem numericRank_lt_of_hasRoomFor {k j : TypeKind} (h : k.hasRoomFor j = true)
    (hj : j.isNumeric = true) (hk : k.isNumeric = true) (hne : k ≠ j) :
    j.numericRank.getD 0 < k.numericRank.getD 0 := by
  have hall : ∀ j ∈ all, ∀ k ∈ all, k.hasRoomFor j = true → j.isNumeric = true →
      k.isNumeric = true → k ≠ j → j.numericRank.getD 0 < k.numericRank.getD 0 := by decide
  exact hall j j.mem_all k k.mem_all h hj hk hne

/-- The range of integers holds the truth values and the ranges of all that it has room for. -/
theorem exists_integerRange {k : TypeKind} (hk : k.isNumeric = true) (hdecimal : k ≠ .decimal) :
    ∃ outer ∈ k.integerRange, (outer.1 ≤ 0 ∧ 1 ≤ outer.2) ∧
      ∀ j, j.isNumeric = true → k.hasRoomFor j = true →
        ∃ inner ∈ j.integerRange, outer.1 ≤ inner.1 ∧ inner.2 ≤ outer.2 := by
  have hall : ∀ k ∈ all, k.isNumeric = true → k ≠ .decimal →
      ∃ outer ∈ k.integerRange, (outer.1 ≤ 0 ∧ 1 ≤ outer.2) ∧
        ∀ j ∈ all, j.isNumeric = true → k.hasRoomFor j = true →
          ∃ inner ∈ j.integerRange, outer.1 ≤ inner.1 ∧ inner.2 ≤ outer.2 := by decide
  obtain ⟨outer, houter, htruth, hinner⟩ := hall k k.mem_all hk hdecimal
  exact ⟨outer, houter, htruth, fun j => hinner j j.mem_all⟩

end TypeKind

/-- Numbers have no room for codes, so an integer whose guess has room among them is a truth value
or has been guessed as a number. -/
theorem IntegerGuess.truth_or_number {v : SqlValue} {n : Int} {g : TypeRequest}
    (h : IntegerGuess v n g) {k : TypeKind} (hroom : k.hasRoomFor g.kind = true)
    (hk : k.isNumeric = true) :
    (n = 0 ∨ n = 1) ∨ g.kind.isNumeric = true ∧
      (∀ bounds ∈ g.kind.integerRange, bounds.1 ≤ n ∧ n ≤ bounds.2) ∧
      (n ≠ 0 → digitCount n ≤ g.digits.beforeDigits.toNat) := by
  cases h with
  | truth _ _ hn => exact .inl hn
  | code _ hbool hplain =>
    rcases TypeKind.isNumeric_or_eq_bool_of_hasRoomFor hroom hk with hnumeric | htruth
    · rw [hplain] at hnumeric
      contradiction
    · exact absurd htruth hbool
  | number _ _ hnumeric hrange hdigits => exact .inr ⟨hnumeric, hrange, hdigits⟩

/-- Kinds of integers with room for a guess hold the integer that was guessed. -/
theorem IntegerGuess.within {v : SqlValue} {n : Int} {g : TypeRequest} (h : IntegerGuess v n g)
    {k : TypeKind} (hroom : k.hasRoomFor g.kind = true) (hk : k.isNumeric = true)
    (hdecimal : k ≠ .decimal) : ∃ bounds ∈ k.integerRange, bounds.1 ≤ n ∧ n ≤ bounds.2 := by
  obtain ⟨outer, houter, ⟨hzero, hone⟩, hinner⟩ := TypeKind.exists_integerRange hk hdecimal
  refine ⟨outer, houter, ?_⟩
  rcases h.truth_or_number hroom hk with hn | ⟨hnumeric, hrange, -⟩
  · omega
  · obtain ⟨inner, hmem, hleast, hgreatest⟩ := hinner _ hnumeric hroom
    have hn := hrange inner hmem
    omega

/-- A type has room for an integer if its kind has room for the guess, and its digits, which count
for decimals only, for the integer. -/
theorem IntegerGuess.hasRoomFor_dropDigits {v : SqlValue} {n : Int} {g r : TypeRequest}
    (h : IntegerGuess v n g) (hroom : r.kind.hasRoomFor g.kind = true)
    (hr : r.kind.isNumeric = true) (hdigits : digitCount n ≤ r.digits.beforeDigits.toNat) :
    (dropDigits r).HasRoomFor n := by
  rw [TypeRequest.HasRoomFor, kind_dropDigits]
  by_cases hdecimal : r.kind = .decimal
  · refine .inr ⟨hdecimal, ?_⟩
    rw [dropDigits, if_pos hdecimal]
    rw [TypeRequest.digits] at hdigits
    cases hsize : r.decimalSize with
    | none =>
      rw [hsize] at hdigits
      exact absurd hdigits (Nat.not_le_of_lt (digitCount_pos n))
    | some size =>
      rw [hsize] at hdigits
      exact ⟨size, rfl, hdigits⟩
  · exact .inl (h.within hroom hr hdecimal)

/-! ## Columns that have been observed -/

section Observed

variable {settings : GuessSettings} {values : List SqlValue} {kind : TypeKind} {o : TypeRequest}

/-- What has been observed has room for the guesses for all integers of the column. -/
theorem exists_integerGuess_of_observed (ho : observed settings values = some o) {v : SqlValue}
    (hv : v ∈ values) {n : Int} (hn : v.integer? = some n) :
    ∃ g, guessValue settings v = some g ∧ IntegerGuess v n g ∧
      o.kind.hasRoomFor g.kind = true := by
  have hcolumn : columnKind? settings values = some o.kind := by
    rw [columnKind?, ho, Option.map_some]
  obtain ⟨g, hg, hint⟩ := guess_of_integer settings hn
  exact ⟨g, hg, hint, hasRoomFor_columnKind? hcolumn v hv g.kind (by rw [guessKind?, hg]; rfl)⟩

/-- Numbers that have been observed carry the digits of each integer but nought and one, for which
there may be no digits if they were truth values. -/
theorem digitCount_le_observed_of_ne (ho : observed settings values = some o)
    (hnumeric : o.kind.isNumeric = true) {v : SqlValue} (hv : v ∈ values) {n : Int}
    (hn : v.integer? = some n) (hzero : n ≠ 0) (hone : n ≠ 1) :
    digitCount n ≤ o.digits.beforeDigits.toNat := by
  obtain ⟨g, hg, hint, hroom⟩ := exists_integerGuess_of_observed ho hv hn
  rcases hint.truth_or_number hroom hnumeric with htruth | ⟨-, -, hdigits⟩
  · omega
  · exact (hdigits hzero).trans (digits_le_of_mem ho (not_string_of_isNumeric hnumeric) hv hg)

/-- Numbers that have been observed carry the digits of each integer, if one of them does not lie in
the declared range. -/
theorem digitCount_le_observed (hkind : kind.isNumeric = true) (hdecimal : kind ≠ .decimal)
    (hnot : ¬AllWithin kind values) (ho : observed settings values = some o)
    (hnumeric : o.kind.isNumeric = true) :
    ∀ v ∈ values, ∀ n ∈ v.integer?, digitCount n ≤ o.digits.beforeDigits.toNat := by
  obtain ⟨outer, houter, ⟨hzero, hone⟩, -⟩ := TypeKind.exists_integerRange hkind hdecimal
  -- an integer outside the declared range is neither 0 nor 1, and so brings a digit for these too
  have hpos : 1 ≤ o.digits.beforeDigits.toNat := by
    by_contra hnone
    refine hnot fun v hv n hn => ⟨outer, houter, ?_⟩
    by_cases hn' : n = 0 ∨ n = 1
    · omega
    · obtain ⟨hn0, hn1⟩ := not_or.mp hn'
      have hdigit := digitCount_pos n
      have hdigits := digitCount_le_observed_of_ne ho hnumeric hv hn hn0 hn1
      omega
  intro v hv n hn
  by_cases hn' : n = 0 ∨ n = 1
  · rcases hn' with rfl | rfl <;> exact hpos
  · obtain ⟨hn0, hn1⟩ := not_or.mp hn'
    exact digitCount_le_observed_of_ne ho hnumeric hv hn hn0 hn1

/-- **Numbers that have been observed make the column wide enough.** -/
theorem widened_of_observed (hkind : kind ∈ TypeKind.integers) (hnot : ¬AllWithin kind values)
    (ho : observed settings values = some o) (hnumeric : o.kind.isNumeric = true) :
    FitsIntegers kind values (dropDigits ((TypeRequest.ofKind kind).widen o)) := by
  obtain ⟨hdeclared, hinteger, -⟩ := TypeKind.of_mem_integers hkind
  -- the new kind has room for the declared one and for all that has been guessed
  have hwide : ((TypeRequest.ofKind kind).widen o).kind = kind.widenBy o.kind false :=
    TypeRequest.kind_widen _ _
  obtain ⟨hroomDeclared, hroomObserved⟩ := TypeKind.hasRoomFor_widenBy kind o.kind false
  have hwider : (kind.widenBy o.kind false).isNumeric = true :=
    TypeKind.isNumeric_widenBy_iff.mpr (.inl ⟨hdeclared, .inl hnumeric⟩)
  rw [← hwide] at hroomDeclared hroomObserved hwider
  have hdigits : ((TypeRequest.ofKind kind).widen o).digits = o.digits := by
    rw [TypeRequest.digits_widen (not_string_of_isNumeric hwider)]
    exact join_empty o.digits
  generalize (TypeRequest.ofKind kind).widen o = r at *
  have hguess : ∀ v ∈ values, ∀ n ∈ v.integer?, ∃ g, IntegerGuess v n g ∧
      r.kind.hasRoomFor g.kind = true := by
    intro v hv n hn
    obtain ⟨g, -, hint, hroom⟩ := exists_integerGuess_of_observed ho hv hn
    exact ⟨g, hint, TypeKind.hasRoomFor_trans hroomObserved hroom⟩
  have hlarger : r.kind ≠ kind := by
    intro heq
    refine hnot fun v hv n hn => ?_
    obtain ⟨g, hint, hroom⟩ := hguess v hv n hn
    rw [heq] at hroom
    exact hint.within hroom hdeclared hinteger
  refine ⟨fun hall => absurd hall hnot, fun _ => ?_⟩
  rw [kind_dropDigits]
  refine ⟨hwider, TypeKind.numericRank_lt_of_hasRoomFor hroomDeclared hdeclared hwider hlarger,
    fun v hv n hn => ?_⟩
  obtain ⟨g, hint, hroom⟩ := hguess v hv n hn
  refine hint.hasRoomFor_dropDigits hroom hwider ?_
  rw [hdigits]
  exact digitCount_le_observed hdeclared hinteger hnot ho hnumeric v hv n hn

end Observed

/-! ## The type of the column -/

/-- **When a typed column of integers is wide enough.**  The type that is settled for the column
fits its integers just when they all lie in the declared range, where it is kept, or the guesser
sees numbers in the column; otherwise it is kept although it is too narrow. -/
theorem typedColumnType_fits_iff {kind : TypeKind} (hkind : kind ∈ TypeKind.integers)
    {values : List SqlValue} (hread : ∀ v ∈ values, v.ReadsInteger) (settings : GuessSettings) :
    FitsIntegers kind values (typedColumnType kind .basic settings values) ↔
      AllWithin kind values ∨ ReadAsNumbers values := by
  have htype : typedColumnType kind .basic settings values =
      numericType kind .basic settings values := by
    simp only [TypeKind.integers, List.mem_cons, List.not_mem_nil, or_false] at hkind
    rcases hkind with rfl | rfl | rfl | rfl <;> rfl
  have hfold : (values.filter fun v => !v.isNull).foldl (Guesser.basic.widen settings) none =
      observed settings values := foldl_filter_isNull settings values
  simp only [htype, numericType, hfold]
  by_cases hall : AllWithin kind values
  · rw [if_pos ((allInRange_iff hkind hread).mpr hall)]
    exact iff_of_true ⟨fun _ => rfl, fun hnot => absurd hall hnot⟩ (.inl hall)
  have hturns : TurnsNumeric settings values ↔ ReadAsNumbers values := turnsNumeric_iff hread
  rw [if_neg (mt (allInRange_iff hkind hread).mp hall), ← hturns, ← isNumeric_columnKind?_iff,
    columnKind?]
  -- a type that is kept is not farther up the chain than itself
  have hkept : ¬FitsIntegers kind values (.ofKind kind) := fun h =>
    absurd (h.widened hall).2.1 (Nat.lt_irrefl _)
  cases ho : observed settings values with
  | none => simp [hall, hkept]
  | some o =>
    cases hnumeric : o.kind.isNumeric with
    | false => simp [hall, hkept, hnumeric]
    | true =>
      simp only [hnumeric, if_true]
      exact iff_of_true (widened_of_observed hkind hall ho hnumeric)
        (.inr ⟨o.kind, rfl, hnumeric⟩)

/-- Texts and typed values behind a typed truth value, the first number among them typed. -/
theorem typedColumnType_fits_long_text :
    typedColumnType .int16 .basic {} [.bool true, .null, .int32 (-40000), .text " +9876543210 "] =
        .ofKind .int64 ∧
      FitsIntegers .int16 [.bool true, .null, .int32 (-40000), .text " +9876543210 "]
        (.ofKind .int64) := by
  have htype : typedColumnType .int16 .basic {}
      [.bool true, .null, .int32 (-40000), .text " +9876543210 "] = .ofKind .int64 := by
    decide +kernel
  have hkind : TypeKind.int16 ∈ TypeKind.integers := by decide
  have hread : ∀ v ∈ [SqlValue.bool true, .null, .int32 (-40000), .text " +9876543210 "],
      v.ReadsInteger := by
    simp only [List.forall_mem_cons]
    exact ⟨.inr ⟨1, rfl⟩, .inl rfl, .inr ⟨-40000, by decide +kernel⟩,
      .inr ⟨9876543210, by decide +kernel⟩, by simp⟩
  have hfits := (typedColumnType_fits_iff hkind hread {}).mpr
    (.inr ⟨by decide +kernel, [.bool true, .null], .int32 (-40000), [.text " +9876543210 "], rfl,
      by decide, by decide, by decide⟩)
  rw [htype] at hfits
  exact ⟨htype, hfits⟩

/-- A numeral with a leading zero is too large for the declared kind, which is kept. -/
theorem typedColumnType_too_narrow :
    typedColumnType .byte .basic {} [.text "0300"] = .ofKind .byte ∧
      ¬FitsIntegers .byte [.text "0300"] (typedColumnType .byte .basic {} [.text "0300"]) := by
  have hvalue : (SqlValue.text "0300").integer? = some 300 := by decide +kernel
  have htype : typedColumnType .byte .basic {} [.text "0300"] = .ofKind .byte := by decide +kernel
  have hlarge : ¬AllWithin .byte [.text "0300"] := by
    intro hall
    obtain ⟨bounds, hbounds, hleast, hgreatest⟩ := hall (.text "0300") (by simp) 300 hvalue
    obtain rfl := Option.some.inj hbounds
    exact absurd hgreatest (by decide)
  refine ⟨htype, fun hfits => ?_⟩
  rw [htype] at hfits
  exact Nat.lt_irrefl _ (hfits.widened hlarge).2.1

end SqlDialects
