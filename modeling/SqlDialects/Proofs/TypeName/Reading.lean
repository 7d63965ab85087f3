import SqlDialects.TypeName.Read

/-!
# What is read out of any type name

The type names of an existing table come from its engine and may be anything at all.  Some things
hold of every one of them:

* **Numbers** have no sign, since a qualifier has no room for one (`isUnsigned_qualifierOf`).
* **Lengths** are therefore not negative, so `notAString` is the length of those types only that
  are no strings (`stringLength_eq_notAString_iff`).
* **Widths** are lengths cut down to 32 bits, so a request says what the type declares just when
  that loses nothing (`request_width_iff`).
* **Digits** are read out of numbers only (`isNumberKind_of_decimalSizeOf`).  Everywhere but in
  Oracle that makes the type a decimal; in Oracle integers are numbers too.
-/

set_option autoImplicit false

namespace SqlDialects

open Text

/-! ## Qualifiers -/

theorem nonneg_of_readSigned {s : Chars} {n : Int} (hsign : ∀ rest, s ≠ '-' :: rest)
    (h : readSigned s = some n) : 0 ≤ n := by
  unfold readSigned at h
  split at h
  · next rest => exact absurd rfl (hsign rest)
  all_goals
    obtain ⟨m, hm, rfl⟩ := Option.map_eq_some_iff.mp h
    obtain ⟨k, -, hk⟩ := Option.bind_eq_some_iff.mp hm
    obtain rfl := Option.some.inj hk
    exact Int.natCast_nonneg k

/-- A numeral has no sign, and is read up to the greatest 64-bit integer. -/
theorem bounds_of_takeNumeral {s digits rest : Chars} {n : Int}
    (h : takeNumeral s = some (digits, rest)) (hn : readInt64 digits = some n) :
    0 ≤ n ∧ n ≤ int64Max := by
  have hminus : isAnyDigit '-' = false := by decide
  have hdigits : digits = s.takeWhile isAnyDigit := by
    simp only [takeNumeral] at h
    split at h
    · contradiction
    · exact (Prod.ext_iff.mp (Option.some.inj h)).1.symm
  obtain ⟨hsigned, hrange⟩ := Option.filter_eq_some_iff.mp hn
  simp only [Bool.and_eq_true, decide_eq_true_eq] at hrange
  refine ⟨nonneg_of_readSigned (fun t ht => ?_) hsigned, hrange.2⟩
  have hall : ('-' :: t).all isAnyDigit = true := by
    rw [← ht, hdigits, List.all_takeWhile]
  rw [List.all_cons, hminus] at hall
  exact Bool.noConfusion hall

/-- The numbers of a qualifier are not negative, and are 64-bit integers. -/
structure Qualifier.IsUnsigned (q : Qualifier) : Prop where
  first : ∀ n ∈ q.first, 0 ≤ n ∧ n ≤ int64Max
  second : ∀ n ∈ q.second, 0 ≤ n ∧ n ≤ int64Max

/-- The second number stands behind a comma. -/
theorem bounds_of_takeSecond {s rest : Chars} {second : Option Chars} {n : Int}
    (h : takeSecond s = some (second, rest)) (hn : second.bind readInt64 = some n) :
    0 ≤ n ∧ n ≤ int64Max := by
  rw [takeSecond.eq_def] at h
  split at h
  · obtain ⟨⟨digits, tail⟩, hnumeral, heq⟩ := Option.map_eq_some_iff.mp h
    obtain ⟨rfl, -⟩ := Prod.mk.inj heq
    exact bounds_of_takeNumeral hnumeral hn
  · obtain ⟨rfl, -⟩ := Prod.mk.inj (Option.some.inj h)
    contradiction

/-- What stands behind the first number adds the second one only. -/
theorem isUnsigned_of_closed {first : Option Int} {isMax : Bool} {s : Chars} {q : Qualifier}
    (hfirst : ∀ n ∈ first, 0 ≤ n ∧ n ≤ int64Max)
    (h : (takeSecond s).bind (fun (second, rest) =>
      if rest.head? = some ')' then some ⟨first, second.bind readInt64, isMax⟩ else none) =
        some q) : q.IsUnsigned := by
  obtain ⟨⟨second, rest⟩, hsecond, h⟩ := Option.bind_eq_some_iff.mp h
  obtain rfl := Option.some.inj (Option.ite_none_right_eq_some.mp h).2
  exact ⟨hfirst, fun n hn => bounds_of_takeSecond hsecond hn⟩

theorem isUnsigned_of_qualifierAt {s : Chars} {q : Qualifier} (h : qualifierAt s = some q) :
    q.IsUnsigned := by
  rw [qualifierAt] at h
  split at h
  · next digits rest hnumeral =>
    exact isUnsigned_of_closed (fun n hn => bounds_of_takeNumeral hnumeral hn) h
  · -- the word `max` stands in place of the numeral
    obtain ⟨⟨first, isMax, tail⟩, hmax, h⟩ := Option.bind_eq_some_iff.mp h
    obtain ⟨rest, -, hmax⟩ := Option.map_eq_some_iff.mp hmax
    obtain ⟨rfl, -⟩ := Prod.mk.inj hmax
    exact isUnsigned_of_closed (by simp) h

theorem isUnsigned_of_firstQualifier {s : Chars} {q : Qualifier}
    (h : firstQualifier s = some q) : q.IsUnsigned := by
  induction s with
  | nil => contradiction
  | cons c s ih =>
    rw [firstQualifier, Option.or_eq_some_iff] at h
    rcases h with h | ⟨-, h⟩
    · exact isUnsigned_of_qualifierAt (Option.ite_none_right_eq_some.mp h).2
    · exact ih h

/-- **The numbers in a type name have no sign.** -/
theorem isUnsigned_qualifierOf (sqlType : String) : (qualifierOf sqlType).IsUnsigned := by
  rw [qualifierOf]
  cases h : firstQualifier (canonicalName sqlType) with
  | none => exact ⟨by simp, by simp⟩
  | some q => exact isUnsigned_of_firstQualifier h

/-! ## Strings -/

section Strings

variable {dialect : Dialect} {sqlType : String}

theorem stringLength_nonneg (h : dialect.kindOf sqlType = some .string) :
    0 ≤ dialect.stringLength sqlType := by
  have hunlimited : 0 ≤ unlimitedLength := by decide
  rw [Dialect.stringLength, if_neg (by simp [h])]
  simp only
  split
  · exact hunlimited
  · split
    · next n hn =>
      exact ((isUnsigned_qualifierOf sqlType).first n hn).1
    · split
      · decide
      · exact hunlimited

/-- The types that are no strings are told by their length. -/
theorem stringLength_eq_notAString_iff :
    dialect.stringLength sqlType = notAString ↔ dialect.kindOf sqlType ≠ some .string := by
  constructor
  · intro h hstring
    have hnonneg := stringLength_nonneg hstring
    rw [h] at hnonneg
    exact absurd hnonneg (by decide)
  · intro h
    rw [Dialect.stringLength, if_pos h]

theorem kindOf_eq_string {length : Int} (h : dialect.stringLength sqlType = length)
    (hlength : length ≠ notAString) : dialect.kindOf sqlType = some .string :=
  Decidable.not_not.mp fun hkind => hlength (h ▸ stringLength_eq_notAString_iff.mpr hkind)

theorem request_of_string (h : dialect.kindOf sqlType = some .string) :
    dialect.request sqlType = .ok { kind := .string, width := dialect.stringWidth sqlType
                                    unicode := dialect.isUnicode sqlType } := by
  rw [Dialect.request, h]

/-- **Whether the width of a request says what the type declares.**  There is none for an unlimited
length, it is the length if 32 bits hold that, and otherwise there is none or the greatest one. -/
def WidthTells (width : Option UInt32) (length : Int) : Prop :=
  if length = unlimitedLength then width = none
  else if length ≤ 4294967295 then ∃ w, width = some w ∧ (w.toNat : Int) = length
  else width = none ∨ width = some 4294967295

/-- The width of a string type is its length without the bits beyond the 32 lowest. -/
theorem stringWidth_eq (h : dialect.kindOf sqlType = some .string) :
    dialect.stringLength sqlType = unlimitedLength ∧ dialect.stringWidth sqlType = none ∨
      dialect.stringLength sqlType ≠ unlimitedLength ∧ ∃ w, dialect.stringWidth sqlType = some w ∧
        (w.toNat : Int) = dialect.stringLength sqlType % 4294967296 := by
  have hnonneg := stringLength_nonneg h
  rw [Dialect.stringWidth]
  generalize dialect.stringLength sqlType = length at hnonneg ⊢
  by_cases hunlimited : length = unlimitedLength
  · exact .inl ⟨hunlimited, by simp [hunlimited]⟩
  · have hnot : ¬(length = unlimitedLength ∨ length < 0) := by omega
    refine .inr ⟨hunlimited, .ofNat (length.toNat % 4294967296), if_neg hnot, ?_⟩
    rw [UInt32.toNat_ofNat']
    omega

/-- **Which widths survive reading.**  The width of the request for a string type says what the type
declares just when the length fits into 32 bits, or happens to have them all set; and it is never
smaller than the length just when that fits into 32 bits. -/
theorem request_width_iff (h : dialect.kindOf sqlType = some .string) :
    ∃ r, dialect.request sqlType = .ok r ∧ r.kind = .string ∧
      (WidthTells r.width (dialect.stringLength sqlType) ↔
        dialect.stringLength sqlType ≤ 4294967295 ∨
          dialect.stringLength sqlType % 4294967296 = 4294967295) ∧
      ((∀ w ∈ r.width, dialect.stringLength sqlType ≤ w.toNat) ↔
        dialect.stringLength sqlType ≤ 4294967295) := by
  refine ⟨_, request_of_string h, rfl, ?_⟩
  have hnonneg := stringLength_nonneg h
  have hwidth := stringWidth_eq h
  simp only [WidthTells]
  generalize dialect.stringLength sqlType = length at *
  rcases hwidth with ⟨rfl, hnone⟩ | ⟨hlimited, w, hsome, hw⟩
  · have hfits : unlimitedLength ≤ 4294967295 := by decide
    simp [hnone, hfits]
  rw [hsome, if_neg hlimited]
  by_cases hfits : length ≤ 4294967295
  · have hlength : (w.toNat : Int) = length := by omega
    rw [if_pos hfits]
    exact ⟨iff_of_true ⟨w, rfl, hlength⟩ (.inl hfits),
      iff_of_true (by simp [hlength]) hfits⟩
  · have hword := w.toNat_lt
    rw [if_neg hfits]
    refine ⟨?_, iff_of_false (fun hall => ?_) hfits⟩
    · -- a length that does not fit is told only by the greatest word
      have hgreatest : w = 4294967295 ↔ length % 4294967296 = 4294967295 := by
        rw [← UInt32.toNat_inj, ← hw]
        exact ⟨fun h => by rw [h]; rfl, fun h => by
          show w.toNat = 4294967295
          omega⟩
      simp [hfits, hgreatest]
    · have hle := hall w rfl
      omega

end Strings

/-- A length beyond 31 bits, which 32 bits hold. -/
theorem request_width_long :
    Dialect.oracle.stringLength "VARCHAR2 ( 4294967295 char )" = 4294967295 ∧
      ∃ r, Dialect.oracle.request "VARCHAR2 ( 4294967295 char )" = .ok r ∧
        r.width = some 4294967295 ∧ WidthTells r.width 4294967295 := by
  have hlength : Dialect.oracle.stringLength "VARCHAR2 ( 4294967295 char )" = 4294967295 := by
    decide +kernel
  have hkind := kindOf_eq_string hlength (by decide)
  obtain ⟨r, hr, -, hiff, -⟩ := request_width_iff hkind
  rw [hlength] at hiff
  have htells := hiff.mpr (.inl (Int.le_refl _))
  refine ⟨hlength, r, hr, ?_, htells⟩
  obtain ⟨w, hw, hvalue⟩ : ∃ w, r.width = some w ∧ (w.toNat : Int) = 4294967295 := htells
  have hword : w = 4294967295 := UInt32.toNat_inj.mp (by
    show w.toNat = 4294967295
    omega)
  rw [hw, hword]

/-- A length of 33 bits is taken for 1. -/
theorem request_width_truncated :
    Dialect.mssql.stringLength "varchar(4294967297)" = 4294967297 ∧
      Dialect.mssql.request "varchar(4294967297)" = .ok (.string 1) ∧
      ¬WidthTells (some 1) 4294967297 := by
  have hlength : Dialect.mssql.stringLength "varchar(4294967297)" = 4294967297 := by
    decide +kernel
  have hkind := kindOf_eq_string hlength (by decide)
  refine ⟨hlength, ?_, fun h => ?_⟩
  · rw [request_of_string hkind, Dialect.stringWidth, hlength]
    rfl
  rcases h with h | h
  · cases h
  · exact absurd h (by decide)

/-! ## Numbers -/

/-- The kinds that numbers have in a dialect. -/
def Dialect.isNumberKind (dialect : Dialect) (kind : TypeKind) : Bool :=
  kind == .decimal ||
    dialect == oracle && [TypeKind.bool, .byte, .int16, .int32, .int64].contains kind

/-- A name that begins with a word for decimals is not that of a narrower type. -/
theorem not_recognises_of_decimal {t : Chars} (h : commonlyRecognises .decimal t = true) :
    (∀ family ∈ [TypeFamily.bool, .byte, .byteArray, .smallInt, .int, .long],
      commonlyRecognises family t = false) ∧ Dialect.mysql.recognises .bool t = false := by
  obtain ⟨word, hword, h⟩ := List.any_eq_true.mp h
  rw [startsWithWord] at h
  split at h
  · next rest hrest =>
    obtain rfl := after?_eq_some_iff.mp hrest
    simp only [List.forall_mem_cons]
    simp only [List.mem_cons, List.not_mem_nil, or_false] at hword
    rcases hword with rfl | rfl | rfl | rfl | rfl | rfl <;>
      exact ⟨⟨rfl, rfl, rfl, rfl, rfl, rfl, by simp⟩, rfl⟩
  · contradiction

/-- **Digits are read out of numbers only.** -/
theorem isNumberKind_of_decimalSizeOf {dialect : Dialect} {sqlType : String} {size : DecimalSize}
    (h : dialect.decimalSizeOf sqlType = some size) :
    ∃ kind, dialect.kindOf sqlType = some kind ∧ dialect.isNumberKind kind = true := by
  rw [Dialect.decimalSizeOf] at h
  obtain ⟨hdecimal, -⟩ := Option.ite_none_right_eq_some.mp h
  rw [Dialect.kindOf]
  generalize canonicalName sqlType = t at *
  have hcommon : commonlyRecognises .decimal t = true := by cases dialect <;> exact hdecimal
  obtain ⟨hnot, hbool⟩ := not_recognises_of_decimal hcommon
  simp only [List.forall_mem_cons] at hnot
  obtain ⟨hbool', hbyte, hbytes, hsmall, hint, hlong, -⟩ := hnot
  cases dialect with
  | mysql =>
    simp only [Dialect.familyOf, TypeFamily.all, List.find?_cons, hbool]
    simp only [Dialect.recognises, hbyte, hbytes, hsmall, hint, hlong, hcommon]
    split <;> exact ⟨_, rfl, rfl⟩
  | oracle =>
    simp only [Dialect.familyOf, TypeFamily.all, List.find?_cons, Dialect.recognises, hbytes,
      hcommon]
    repeat' split
    all_goals exact ⟨_, rfl, rfl⟩
  | mssql | postgres | sqlite =>
    simp only [Dialect.familyOf, TypeFamily.all, List.find?_cons, Dialect.recognises, hbool',
      hbyte, hbytes, hsmall, hint, hlong, hcommon]
    split <;> exact ⟨_, rfl, rfl⟩

end SqlDialects
