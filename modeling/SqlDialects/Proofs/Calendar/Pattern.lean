import SqlDialects.DateReader
import SqlDialects.Proofs.Text.Trim
import SqlDialects.Proofs.TypeName.Spelling

/-!
# What patterns take from a text

A pattern is read item by item, and each item takes some characters from the front of what the items
before it have left.  This file says what these characters are, so that the text of a date can be
told from the pattern that reads it.

* **Numbers** are digits after any white space (`exists_digits_of_takeField`).
* **Items** leave the end of the text to the items behind them (`PatternItem.suffix_of_take`), and
  what an item without letters takes is digits with what may stand around them
  (`PatternItem.exists_front_of_take`).
* **Marks**, as the colon, that no number is written with stand in a text as often as in a pattern
  without names that reads it (`count_of_readFields`).  So the marks of a text tell by which pattern
  it can be read.
* **Fields** that no further item sets stay as they are (`month_of_readFields`), and the fields of a
  day make up a day of the calendar, which is in one of twelve months (`Date.month_le`).

`Pattern.Names` says that a text names a day by a pattern, alone or with a time.
-/

set_option autoImplicit false

namespace SqlDialects

open Text

/-! ## Numbers -/

theorem readNat_eq_some_iff {s : Chars} {n : Nat} :
    readNat s = some n ↔
      s ≠ [] ∧ (∀ c ∈ s, c.isDigit = true) ∧ Nat.ofDigitChars 10 s 0 = n := by
  rw [readNat, ← List.all_eq_true, ne_eq, ← List.isEmpty_iff]
  cases s.isEmpty <;> cases s.all Char.isDigit <;> simp

theorem takeDigits_append (width : Nat) (s : Chars) :
    (takeDigits width s).1 ++ (takeDigits width s).2 = s := by
  induction s generalizing width with
  | nil => cases width <;> rfl
  | cons c s ih =>
    cases width with
    | zero => rfl
    | succ width =>
      rw [takeDigits]
      split
      · exact congrArg (c :: ·) (ih width)
      · rfl

/-- A number is what its digits say. -/
theorem exists_digits_of_takeNumber {width : Nat} {s rest : Chars} {n : Nat}
    (h : takeNumber width s = some (n, rest)) :
    ∃ digits, s = digits ++ rest ∧ readNat digits = some n := by
  obtain ⟨value, hvalue, heq⟩ := Option.map_eq_some_iff.mp h
  obtain ⟨rfl, rfl⟩ := Prod.mk.inj heq
  exact ⟨_, (takeDigits_append width s).symm, hvalue⟩

/-- **A field is digits after any white space.** -/
theorem exists_digits_of_takeField {width : Nat} {s rest : Chars} {n : Nat}
    (h : takeField width s = some (n, rest)) :
    ∃ blanks digits, s = blanks ++ (digits ++ rest) ∧ (∀ c ∈ blanks, isBlank c = true) ∧
      readNat digits = some n := by
  obtain ⟨blanks, hs, hblanks⟩ := exists_blanks_append_trimStart s
  obtain ⟨digits, hdigits, hread⟩ := exists_digits_of_takeNumber h
  exact ⟨blanks, digits, hdigits ▸ hs, hblanks, hread⟩

/-- A year is digits after any white space and a sign or none. -/
theorem exists_digits_of_takeYear {s rest : Chars} {n : Int} (h : takeYear s = some (n, rest)) :
    ∃ blanks sign digits m, s = blanks ++ (sign ++ (digits ++ rest)) ∧
      (∀ c ∈ blanks, isBlank c = true) ∧ sign ∈ [[], ['+'], ['-']] ∧
      readNat digits = some m := by
  obtain ⟨blanks, hs, hblanks⟩ := exists_blanks_append_trimStart s
  suffices hsigned : ∃ sign digits m, trimStart s = sign ++ (digits ++ rest) ∧
      sign ∈ [[], ['+'], ['-']] ∧ readNat digits = some m by
    obtain ⟨sign, digits, m, hstart, hsign⟩ := hsigned
    exact ⟨blanks, sign, digits, m, hstart ▸ hs, hblanks, hsign⟩
  have htaken : ∀ (f : Nat → Int) {width : Nat} {front : Chars},
      ((takeNumber width front).map fun taken => (f taken.1, taken.2)) = some (n, rest) →
      ∃ digits m, front = digits ++ rest ∧ readNat digits = some m := by
    intro f width front htake
    obtain ⟨⟨m, left⟩, hnumber, heq⟩ := Option.map_eq_some_iff.mp htake
    obtain ⟨-, rfl⟩ := Prod.mk.inj heq
    obtain ⟨digits, hdigits, hread⟩ := exists_digits_of_takeNumber hnumber
    exact ⟨digits, m, hdigits, hread⟩
  rw [takeYear] at h
  split at h
  case h_1 hfront =>
    obtain ⟨digits, m, rfl, hread⟩ := htaken (fun n => -n) h
    exact ⟨['-'], digits, m, hfront, by simp, hread⟩
  case h_2 hfront =>
    obtain ⟨digits, m, rfl, hread⟩ := htaken Nat.cast h
    exact ⟨['+'], digits, m, hfront, by simp, hread⟩
  case h_3 =>
    obtain ⟨digits, m, hdigits, hread⟩ := htaken Nat.cast h
    exact ⟨[], digits, m, hdigits, by simp, hread⟩

/-! ## Items -/

section Suffix

variable {s rest : Chars}

theorem suffix_of_afterIgnoringCase? {start : String} (h : afterIgnoringCase? start s = some rest) :
    rest <:+ s := by
  rw [afterIgnoringCase?, Option.ite_none_right_eq_some] at h
  exact Option.some.inj h.2 ▸ List.drop_suffix _ _

theorem suffix_of_takeField {width n : Nat} (h : takeField width s = some (n, rest)) :
    rest <:+ s := by
  obtain ⟨blanks, digits, rfl, -⟩ := exists_digits_of_takeField h
  exact (List.suffix_append _ _).trans (List.suffix_append _ _)

theorem suffix_of_takeYear {n : Int} (h : takeYear s = some (n, rest)) : rest <:+ s := by
  obtain ⟨blanks, sign, digits, m, rfl, -⟩ := exists_digits_of_takeYear h
  exact ((List.suffix_append _ _).trans (List.suffix_append _ _)).trans (List.suffix_append _ _)

/-- A name in front is a short or a long one. -/
theorem exists_monthName_of_takeMonthName {n : Nat} (h : takeMonthName s = some (n, rest)) :
    ∃ name ∈ monthNames, ∃ left, afterIgnoringCase? name.1 s = some left ∧
      (afterIgnoringCase? name.2 left).getD left = rest := by
  obtain ⟨⟨name, i⟩, hname, hread⟩ := List.exists_of_findSome?_eq_some h
  obtain ⟨left, hshort, heq⟩ := Option.map_eq_some_iff.mp hread
  exact ⟨name, List.fst_mem_of_mem_zipIdx hname, left, hshort, (Prod.mk.inj heq).2⟩

theorem suffix_of_takeMonthName {n : Nat} (h : takeMonthName s = some (n, rest)) :
    rest <:+ s := by
  obtain ⟨name, -, left, hshort, rfl⟩ := exists_monthName_of_takeMonthName h
  refine List.IsSuffix.trans ?_ (suffix_of_afterIgnoringCase? hshort)
  cases hlong : afterIgnoringCase? name.2 left with
  | none => exact List.suffix_refl _
  | some rest => exact suffix_of_afterIgnoringCase? hlong

/-- A fraction is a point and digits, or nothing. -/
theorem exists_digits_of_takeFraction {n : Nat} (h : takeFraction s = some (n, rest)) :
    ∃ front, s = front ++ rest ∧ ∀ c ∈ front, c = '.' ∨ c.isDigit = true := by
  rw [takeFraction.eq_def] at h
  split at h
  case h_1 s =>
    simp only [Option.map_eq_some_iff, Prod.mk.injEq] at h
    obtain ⟨m, hread, -, rfl⟩ := h
    obtain ⟨-, hdigits, -⟩ := readNat_eq_some_iff.mp hread
    refine ⟨'.' :: ((takeDigits 9 s).1 ++ (takeDigits 9 s).2.takeWhile Char.isDigit), ?_, ?_⟩
    · rw [List.cons_append, List.append_assoc, List.takeWhile_append_dropWhile,
        takeDigits_append]
    · refine List.forall_mem_cons.mpr ⟨.inl rfl, List.forall_mem_append.mpr ⟨?_, ?_⟩⟩
      · exact fun c hc => .inr (hdigits c hc)
      · exact fun c hc => .inr (List.mem_takeWhile_imp hc)
  case h_2 =>
    obtain ⟨-, rfl⟩ := Prod.mk.inj (Option.some.inj h)
    exact ⟨[], rfl, List.forall_mem_nil _⟩

theorem suffix_of_takeFraction {n : Nat} (h : takeFraction s = some (n, rest)) : rest <:+ s := by
  obtain ⟨front, rfl, -⟩ := exists_digits_of_takeFraction h
  exact List.suffix_append _ _

theorem suffix_of_takeHalfDay {b : Bool} (h : takeHalfDay s = some (b, rest)) : rest <:+ s := by
  rw [takeHalfDay] at h
  split at h
  case h_1 hmorning =>
    obtain ⟨-, rfl⟩ := Prod.mk.inj (Option.some.inj h)
    exact suffix_of_afterIgnoringCase? hmorning
  case h_2 hafternoon =>
    obtain ⟨-, rfl⟩ := Prod.mk.inj (Option.some.inj h)
    exact suffix_of_afterIgnoringCase? hafternoon
  case h_3 => nomatch h

/-- **An item takes characters from the front** and leaves the others. -/
theorem PatternItem.suffix_of_take {item : PatternItem} {f g : Fields}
    (h : item.take f s = some (g, rest)) : rest <:+ s := by
  cases item <;>
    simp only [PatternItem.take, Option.map_eq_some_iff, Option.some.injEq, Prod.exists,
      Prod.mk.injEq, exists_eq_right_right] at h
  case year => exact suffix_of_takeYear h.choose_spec.1
  case monthName => exact suffix_of_takeMonthName h.choose_spec.1
  case fraction => exact suffix_of_takeFraction h.choose_spec.1
  case halfDay => exact suffix_of_takeHalfDay h.choose_spec.1
  case blank => exact h.2 ▸ List.dropWhile_suffix _
  case mark => exact after?_eq_some_iff.mp h.1 ▸ List.suffix_append _ _
  all_goals exact suffix_of_takeField h.choose_spec.1

end Suffix

/-! ## Marks -/

/-- The characters of a field without letters: digits, the white space and the sign in front of
them, and the point of a fraction. -/
def isFieldChar (c : Char) : Bool :=
  c.isDigit || isBlank c || c = '+' || c = '-' || c = '.'

/-- The items that are written in letters. -/
def PatternItem.isWord : PatternItem → Bool
  | .monthName | .halfDay => true
  | _ => false

theorem isFieldChar_of_isDigit {c : Char} (h : c.isDigit = true) : isFieldChar c = true := by
  simp [isFieldChar, h]

theorem isFieldChar_of_isBlank {c : Char} (h : isBlank c = true) : isFieldChar c = true := by
  simp [isFieldChar, h]

theorem isFieldChar_of_readNat {digits : Chars} {n : Nat} (h : readNat digits = some n) :
    ∀ c ∈ digits, isFieldChar c = true :=
  fun c hc => isFieldChar_of_isDigit ((readNat_eq_some_iff.mp h).2.1 c hc)

/-- **An item without letters** takes characters of a field. -/
theorem PatternItem.exists_front_of_take {item : PatternItem} (hword : item.isWord = false)
    (hmark : ∀ c, item ≠ .mark c) {f g : Fields} {s rest : Chars}
    (h : item.take f s = some (g, rest)) :
    ∃ front, s = front ++ rest ∧ ∀ c ∈ front, isFieldChar c = true := by
  have hfield : ∀ n, takeField 2 s = some (n, rest) →
      ∃ front, s = front ++ rest ∧ ∀ c ∈ front, isFieldChar c = true := by
    intro n htake
    obtain ⟨blanks, digits, rfl, hblanks, hread⟩ := exists_digits_of_takeField htake
    refine ⟨blanks ++ digits, (List.append_assoc _ _ _).symm, List.forall_mem_append.mpr ⟨?_, ?_⟩⟩
    · exact fun c hc => isFieldChar_of_isBlank (hblanks c hc)
    · exact isFieldChar_of_readNat hread
  cases item <;>
    simp only [PatternItem.take, Option.map_eq_some_iff, Option.some.injEq, Prod.exists,
      Prod.mk.injEq, exists_eq_right_right] at h
  case year =>
    obtain ⟨blanks, sign, digits, m, rfl, hblanks, hsign, hread⟩ :=
      exists_digits_of_takeYear h.choose_spec.1
    have hsign : ∀ c ∈ sign, isFieldChar c = true := by
      simp only [List.mem_cons, List.not_mem_nil, or_false] at hsign
      rcases hsign with rfl | rfl | rfl <;> simp [isFieldChar]
    refine ⟨blanks ++ (sign ++ digits), by simp only [List.append_assoc], ?_⟩
    refine List.forall_mem_append.mpr ⟨?_, List.forall_mem_append.mpr ⟨hsign, ?_⟩⟩
    · exact fun c hc => isFieldChar_of_isBlank (hblanks c hc)
    · exact isFieldChar_of_readNat hread
  case monthName => nomatch hword
  case halfDay => nomatch hword
  case fraction =>
    obtain ⟨front, hs, hfront⟩ := exists_digits_of_takeFraction h.choose_spec.1
    refine ⟨front, hs, fun c hc => ?_⟩
    obtain rfl | hdigit := hfront c hc
    · decide
    · exact isFieldChar_of_isDigit hdigit
  case blank =>
    obtain ⟨blanks, hs, hblanks⟩ := exists_blanks_append_trimStart s
    exact ⟨blanks, h.2 ▸ hs, fun c hc => isFieldChar_of_isBlank (hblanks c hc)⟩
  case mark c => exact absurd rfl (hmark c)
  -- what is left are numbers of two digits
  all_goals exact hfield _ h.choose_spec.1

/-- **A mark that is no character of a field** stands in what an item takes as often as the item
asks for it. -/
theorem PatternItem.count_of_take {item : PatternItem} (hword : item.isWord = false)
    {f g : Fields} {s rest : Chars} (h : item.take f s = some (g, rest)) {c : Char}
    (hc : isFieldChar c = false) : s.count c = [item].count (.mark c) + rest.count c := by
  by_cases hmark : ∃ d, item = .mark d
  · obtain ⟨d, rfl⟩ := hmark
    obtain ⟨left, hafter, heq⟩ := Option.map_eq_some_iff.mp h
    obtain ⟨-, rfl⟩ := Prod.mk.inj heq
    rw [after?_eq_some_iff.mp hafter, List.count_append]
    simp [List.count_singleton]
  · rw [not_exists] at hmark
    obtain ⟨front, rfl, hfront⟩ := PatternItem.exists_front_of_take hword hmark h
    have hnone : front.count c = 0 := by
      refine List.count_eq_zero.mpr fun hmem => ?_
      exact Bool.noConfusion ((hfront c hmem).symm.trans hc)
    have hitem : [item].count (.mark c) = 0 :=
      List.count_eq_zero.mpr fun hmem => hmark c (List.mem_singleton.mp hmem).symm
    rw [List.count_append, hnone, hitem]

/-- What no item but those of a month's number and name sets. -/
theorem PatternItem.month_of_take {item : PatternItem} (hnumber : item ≠ .month)
    (hname : item ≠ .monthName) {f g : Fields} {s rest : Chars}
    (h : item.take f s = some (g, rest)) : g.month = f.month := by
  cases item <;>
    simp only [PatternItem.take, Option.map_eq_some_iff, Option.some.injEq, Prod.exists,
      Prod.mk.injEq, exists_eq_right_right] at h
  case month => exact absurd rfl hnumber
  case monthName => exact absurd rfl hname
  case blank => exact h.1 ▸ rfl
  case mark => exact h.2 ▸ rfl
  all_goals
    obtain ⟨n, -, rfl⟩ := h
    rfl

/-! ## Patterns -/

section Pattern

variable {p : Pattern} {f g : Fields} {s : Chars}

theorem readFields_cons {item : PatternItem} :
    Pattern.readFields (item :: p) f s = some g ↔
      ∃ f' rest, item.take f s = some (f', rest) ∧ Pattern.readFields p f' rest = some g := by
  rw [Pattern.readFields, Option.bind_eq_some_iff, Prod.exists]

theorem mem_of_readFields {c : Char} (hc : PatternItem.mark c ∈ p)
    (h : Pattern.readFields p f s = some g) : c ∈ s := by
  induction p generalizing f s with
  | nil => nomatch hc
  | cons item p ih =>
    obtain ⟨f', rest, htake, hrest⟩ := readFields_cons.mp h
    rcases List.mem_cons.mp hc with rfl | hc
    · obtain ⟨left, hafter, -⟩ := Option.map_eq_some_iff.mp htake
      exact after?_eq_some_iff.mp hafter ▸ List.mem_cons_self
    · exact (PatternItem.suffix_of_take htake).mem (ih hc hrest)

theorem month_of_readFields (hnumber : PatternItem.month ∉ p) (hname : PatternItem.monthName ∉ p)
    (h : Pattern.readFields p f s = some g) : g.month = f.month := by
  induction p generalizing f s with
  | nil =>
    rw [Pattern.readFields, Option.ite_none_right_eq_some] at h
    exact Option.some.inj h.2 ▸ rfl
  | cons item p ih =>
    obtain ⟨f', rest, htake, hrest⟩ := readFields_cons.mp h
    rw [List.mem_cons, not_or] at hnumber hname
    rw [ih hnumber.2 hname.2 hrest,
      PatternItem.month_of_take (Ne.symm hnumber.1) (Ne.symm hname.1) htake]

/-- A number with a mark behind it. -/
theorem exists_digits_of_readFields {item : PatternItem} (set : Nat → Fields)
    (hitem : ∀ s, item.take f s = (takeField 2 s).map fun (n, rest) => (set n, rest)) {c : Char}
    (h : Pattern.readFields (item :: .mark c :: p) f s = some g) :
    ∃ blanks digits n rest, s = blanks ++ (digits ++ c :: rest) ∧
      (∀ b ∈ blanks, isBlank b = true) ∧ readNat digits = some n ∧
      Pattern.readFields p (set n) rest = some g := by
  obtain ⟨f', after, htake, hread⟩ := readFields_cons.mp h
  obtain ⟨f'', rest, hmark, hread⟩ := readFields_cons.mp hread
  simp only [hitem, Option.map_eq_some_iff, Prod.exists, Prod.mk.injEq,
    exists_eq_right_right] at htake
  simp only [PatternItem.take, Option.map_eq_some_iff, Prod.mk.injEq, exists_eq_right_right,
    after?_eq_some_iff] at hmark
  obtain ⟨n, hfield, rfl⟩ := htake
  obtain ⟨rfl, rfl⟩ := hmark
  obtain ⟨blanks, digits, hs, hblanks, hdigits⟩ := exists_digits_of_takeField hfield
  exact ⟨blanks, digits, n, rest, hs, hblanks, hdigits, hread⟩

/-- **The marks of a text are those of the pattern** that reads it, if no field can be written with
them. -/
theorem count_of_readFields (hword : ∀ item ∈ p, item.isWord = false)
    (h : Pattern.readFields p f s = some g) {c : Char} (hc : isFieldChar c = false) :
    s.count c = p.count (.mark c) := by
  induction p generalizing f s with
  | nil =>
    rw [Pattern.readFields, Option.ite_none_right_eq_some, List.isEmpty_iff] at h
    rw [h.1, List.count_nil, List.count_nil]
  | cons item p ih =>
    obtain ⟨f', rest, htake, hread⟩ := readFields_cons.mp h
    rw [List.forall_mem_cons] at hword
    rw [PatternItem.count_of_take hword.1 htake hc, ih hword.2 hread, ← List.count_append,
      List.singleton_append]

end Pattern

/-! ## Days -/

/-- A year has twelve months. -/
theorem Date.month_le (d : Date) : d.month ≤ 12 := by
  have hdays := d.day_mem
  rw [daysInMonth] at hdays
  grind

theorem Fields.month_of_date? {f : Fields} {d : Date} (h : f.date? = some d) :
    f.month = some d.month := by
  rw [Fields.date?] at h
  split at h
  case h_1 year month day _ hmonth _ =>
    rw [Date.ofParts?, Option.dite_none_right_eq_some] at h
    exact Option.some.inj h.choose_spec ▸ hmonth
  case h_2 => nomatch h

/-- **A text names a day** by a pattern, which may read a time of day besides. -/
def Pattern.Names (p : Pattern) (s : Chars) (d : Date) : Prop :=
  ∃ f, p.readFields {} s = some f ∧ f.date? = some d

theorem Pattern.names_of_readDate {p : Pattern} {s : Chars} {d : Date}
    (h : p.readDate s = some d) : p.Names s d :=
  Option.bind_eq_some_iff.mp h

theorem Pattern.names_of_readDateTime {p : Pattern} {s : Chars} {dt : DateTime}
    (h : p.readDateTime s = some dt) : p.Names s dt.date := by
  obtain ⟨f, hread, hfields⟩ := Option.bind_eq_some_iff.mp h
  split at hfields
  case h_1 date time hdate _ => exact ⟨f, hread, Option.some.inj hfields ▸ hdate⟩
  case h_2 => nomatch hfields

end SqlDialects
