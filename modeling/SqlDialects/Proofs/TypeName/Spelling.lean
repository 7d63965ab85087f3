import SqlDialects.TypeName.Read

/-!
# How declared types are spelled

A type is declared as a name, or as a name with one or two numbers in parentheses.  This file says
what the readers of `SqlDialects.TypeName` make of such a text when the numbers are arbitrary, so
that nothing built on it has to look at single characters again.

* **Numerals.**  `readInt64_toDigits` and `takeNumeral_toDigits` read a number back from its
  decimal digits, whatever follows them.
* **Canonical names.**  `canonicalName_of_plain`: a text of lower case characters without white
  space is its own canonical spelling.  Everything this library declares is of that form, the one
  Oracle name with blanks aside.
* **Qualifiers.**  `firstQualifier_width` and `firstQualifier_size` recover the numbers between
  the parentheses.
* **Declared types.**  `declare_eq` says that there is nothing else: a declared type is one of the
  finitely many names of a dialect, with numbers behind it or without.
-/

set_option autoImplicit false

namespace SqlDialects

open Text

/-! ## Digits -/

theorem toNat_bounds_of_isDigit {c : Char} (h : c.isDigit = true) :
    48 ≤ c.toNat ∧ c.toNat ≤ 57 := by
  simp only [Char.isDigit, Bool.and_eq_true, decide_eq_true_eq, UInt32.le_iff_toNat_le] at h
  exact h

theorem isAnyDigit_of_isDigit {c : Char} (h : c.isDigit = true) : isAnyDigit c = true := by
  rw [isAnyDigit, CodeRanges.has, digitRanges, List.any_cons]
  simp [toNat_bounds_of_isDigit h]

theorem isBlank_of_isDigit {c : Char} (h : c.isDigit = true) : isBlank c = false := by
  obtain ⟨h48, h57⟩ := toNat_bounds_of_isDigit h
  simp only [isBlank, CodeRanges.has, blankRanges, List.any_cons, List.any_nil, Bool.or_false,
    Bool.or_eq_false_iff, Bool.and_eq_false_iff, decide_eq_false_iff_not]
  omega

theorem toLower_of_isDigit {c : Char} (h : c.isDigit = true) : c.toLower = c := by
  obtain ⟨_, h57⟩ := toNat_bounds_of_isDigit h
  refine dif_neg ?_
  simp only [ge_iff_le, UInt32.le_iff_toNat_le, not_and]
  intro h65
  have : 65 ≤ c.toNat := h65
  omega

theorem isDigit_of_mem_toDigits {n : Nat} {c : Char} (h : c ∈ Nat.toDigits 10 n) :
    c.isDigit = true :=
  Nat.isDigit_of_mem_toDigits (by decide) (by decide) h

/-! ## Numerals -/

theorem readNat_toDigits (n : Nat) : readNat (Nat.toDigits 10 n) = some n := by
  have hall : (Nat.toDigits 10 n).all Char.isDigit = true :=
    List.all_eq_true.mpr fun _ hc => isDigit_of_mem_toDigits hc
  rw [readNat, if_neg (by simp [hall, Nat.toDigits_ne_nil]), Nat.ofDigitChars_ten_toDigits]

/-- A numeral without a sign is read by the last rule of `readSigned`. -/
theorem readSigned_toDigits (n : Nat) : readSigned (Nat.toDigits 10 n) = some (n : Int) := by
  have hdigit : ∀ c ∈ Nat.toDigits 10 n, c.isDigit = true := fun _ hc => isDigit_of_mem_toDigits hc
  have hread := readNat_toDigits n
  unfold readSigned
  split
  · rename_i hs; exact absurd (hdigit '-' (by simp [hs])) (by decide)
  · rename_i hs; exact absurd (hdigit '+' (by simp [hs])) (by decide)
  · rw [hread]; rfl

theorem readInt64_toDigits {n : Nat} (h : n ≤ 9223372036854775807) :
    readInt64 (Nat.toDigits 10 n) = some (n : Int) := by
  have hrange : int64Min ≤ (n : Int) ∧ (n : Int) ≤ int64Max := by
    rw [int64Min, int64Max]; omega
  rw [readInt64, readInt, readSigned_toDigits, Option.filter_some, if_pos (by simpa using hrange)]

/-- A numeral ends where the next character is no digit of any script. -/
theorem takeNumeral_append {digits : Chars} (hne : digits ≠ [])
    (h : ∀ c ∈ digits, isAnyDigit c = true) {c : Char} (hc : isAnyDigit c = false) (rest : Chars) :
    takeNumeral (digits ++ c :: rest) = some (digits, c :: rest) := by
  have htake : (digits ++ c :: rest).takeWhile isAnyDigit = digits := by
    rw [List.takeWhile_append_of_pos h, List.takeWhile_cons_of_neg (by simp [hc]),
      List.append_nil]
  have hdrop : (digits ++ c :: rest).dropWhile isAnyDigit = c :: rest := by
    rw [List.dropWhile_append_of_pos h, List.dropWhile_cons_of_neg (by simp [hc])]
  simp only [takeNumeral]
  rw [htake, hdrop, if_neg (by simp [hne])]

theorem takeNumeral_toDigits (n : Nat) {c : Char} (rest : Chars) (h : isAnyDigit c = false) :
    takeNumeral (Nat.toDigits 10 n ++ c :: rest) = some (Nat.toDigits 10 n, c :: rest) :=
  takeNumeral_append Nat.toDigits_ne_nil
    (fun _ hd => isAnyDigit_of_isDigit (isDigit_of_mem_toDigits hd)) h rest

theorem trimStart_toDigits (n : Nat) (rest : Chars) :
    trimStart (Nat.toDigits 10 n ++ rest) = Nat.toDigits 10 n ++ rest := by
  cases hd : Nat.toDigits 10 n with
  | nil => exact absurd hd Nat.toDigits_ne_nil
  | cons c s =>
    have hc : isBlank c = false :=
      isBlank_of_isDigit (isDigit_of_mem_toDigits (n := n) (by simp [hd]))
    rw [List.cons_append, trimStart, List.dropWhile_cons_of_neg (by simp [hc])]

/-- The digits of a number are a lone zero only for zero. -/
theorem toDigits_eq_zero_iff {n : Nat} : Nat.toDigits 10 n = ['0'] ↔ n = 0 := by
  constructor
  · intro h
    have hread := readNat_toDigits n
    rw [h] at hread
    exact (Option.some_inj.mp hread).symm
  · rintro rfl
    exact Nat.toDigits_zero 10

/-! ## Canonical names -/

/-- A character that canonical spelling leaves alone: neither white space nor in upper case. -/
def isPlainSpelling (c : Char) : Bool := !isBlank c && c.toLower == c

theorem isPlainSpelling_of_isDigit {c : Char} (h : c.isDigit = true) :
    isPlainSpelling c = true := by
  simp [isPlainSpelling, isBlank_of_isDigit h, toLower_of_isDigit h]

/-- A text without white space is at most one word; `pending` is what has been read of it. -/
theorem wordsFrom_of_not_blank {s : Chars} (h : ∀ c ∈ s, isBlank c = false) (pending : Chars) :
    wordsFrom pending s = if pending.isEmpty && s.isEmpty then [] else [pending.reverse ++ s] := by
  induction s generalizing pending with
  | nil => simp [wordsFrom]
  | cons c s ih =>
    have hc : isBlank c = false := h c (by simp)
    rw [wordsFrom, if_neg (by simp [hc]), ih (fun d hd => h d (by simp [hd]))]
    simp

theorem canonicalName_of_plain {s : String} (h : s.toList.all isPlainSpelling = true) :
    canonicalName s = s.toList := by
  have hchar : ∀ c ∈ s.toList, isBlank c = false ∧ c.toLower = c := by
    intro c hc
    have := List.all_eq_true.mp h c hc
    simpa [isPlainSpelling] using this
  rw [canonicalName, words, wordsFrom_of_not_blank fun c hc => (hchar c hc).1]
  have hlower : lower s.toList = s.toList :=
    (List.map_congr_left fun c hc => (hchar c hc).2).trans (List.map_id _)
  by_cases hs : s.toList = []
  · simp [hs, lower]
  · simp [hs, hlower]

/-! ## Names with numbers -/

/-- What stands behind the name of a type with one number. -/
def widthSuffix (n : Nat) : Chars := '(' :: (Nat.toDigits 10 n ++ [')'])

/-- What stands behind the name of a type with two numbers. -/
def sizeSuffix (precision scale : Nat) : Chars :=
  '(' :: (Nat.toDigits 10 precision ++ ',' :: (Nat.toDigits 10 scale ++ [')']))

theorem isPlainSpelling_widthSuffix (n : Nat) : (widthSuffix n).all isPlainSpelling = true := by
  have hdigits : (Nat.toDigits 10 n).all isPlainSpelling = true :=
    List.all_eq_true.mpr fun _ hc => isPlainSpelling_of_isDigit (isDigit_of_mem_toDigits hc)
  simp only [widthSuffix, List.all_cons, List.all_append, hdigits]
  decide

theorem isPlainSpelling_sizeSuffix (precision scale : Nat) :
    (sizeSuffix precision scale).all isPlainSpelling = true := by
  have hdigits (n : Nat) : (Nat.toDigits 10 n).all isPlainSpelling = true :=
    List.all_eq_true.mpr fun _ hc => isPlainSpelling_of_isDigit (isDigit_of_mem_toDigits hc)
  simp only [sizeSuffix, List.all_cons, List.all_append, hdigits]
  decide

theorem toList_withWidth (name : String) (width : UInt32) :
    (TypeStyle.withWidth name width).toList = name.toList ++ widthSuffix width.toNat := by
  simp [TypeStyle.withWidth, widthSuffix]

theorem toList_append_render (name : String) (d : DecimalSize) :
    (name ++ d.render).toList = name.toList ++ sizeSuffix d.precision.toNat d.scale.toNat := by
  simp [DecimalSize.render, sizeSuffix, toString]

theorem canonicalName_withWidth {name : String} (h : name.toList.all isPlainSpelling = true)
    (width : UInt32) :
    canonicalName (TypeStyle.withWidth name width) = name.toList ++ widthSuffix width.toNat := by
  rw [canonicalName_of_plain, toList_withWidth]
  rw [toList_withWidth, List.all_append, h, isPlainSpelling_widthSuffix]
  rfl

theorem canonicalName_append_render {name : String} (h : name.toList.all isPlainSpelling = true)
    (d : DecimalSize) :
    canonicalName (name ++ d.render) =
      name.toList ++ sizeSuffix d.precision.toNat d.scale.toNat := by
  rw [canonicalName_of_plain, toList_append_render]
  rw [toList_append_render, List.all_append, h, isPlainSpelling_sizeSuffix]
  rfl

/-! ## Qualifiers -/

/-- Nothing in front of the first parenthesis matters for the qualifier. -/
theorem firstQualifier_append {name : Chars} (h : '(' ∉ name) (s : Chars) :
    firstQualifier (name ++ '(' :: s) = (qualifierAt s).or (firstQualifier s) := by
  induction name with
  | nil => simp [firstQualifier]
  | cons c name ih =>
    simp only [List.mem_cons, not_or] at h
    rw [List.cons_append, firstQualifier, if_neg (Ne.symm h.1), Option.none_or, ih h.2]

/-- A qualifier that begins with a numeral, read up to its second number. -/
theorem qualifierAt_of_numeral {s digits rest : Chars}
    (h : takeNumeral (trimStart s) = some (digits, rest)) :
    qualifierAt s = (takeSecond (dropUnit (trimStart rest))).bind fun (second, rest) =>
      if rest.head? = some ')' then some ⟨readInt64 digits, second.bind readInt64, false⟩
      else none := by
  simp only [qualifierAt, h]
  rfl

theorem firstQualifier_width {name : Chars} (h : '(' ∉ name) {n : Nat}
    (hn : n ≤ 9223372036854775807) :
    firstQualifier (name ++ widthSuffix n) = some ⟨some (n : Int), none, false⟩ := by
  have hnumeral : takeNumeral (trimStart (Nat.toDigits 10 n ++ [')'])) =
      some (Nat.toDigits 10 n, [')']) := by
    rw [trimStart_toDigits, takeNumeral_toDigits n [] (by decide)]
  have hat : qualifierAt (Nat.toDigits 10 n ++ [')']) = some ⟨some (n : Int), none, false⟩ := by
    rw [qualifierAt_of_numeral hnumeral, readInt64_toDigits hn]
    rfl
  rw [widthSuffix, firstQualifier_append h, hat, Option.some_or]

theorem firstQualifier_size {name : Chars} (h : '(' ∉ name) {precision scale : Nat}
    (hp : precision ≤ 9223372036854775807) (hs : scale ≤ 9223372036854775807) :
    firstQualifier (name ++ sizeSuffix precision scale) =
      some ⟨some (precision : Int), some (scale : Int), false⟩ := by
  have hnumeral : takeNumeral (trimStart (Nat.toDigits 10 precision ++
      ',' :: (Nat.toDigits 10 scale ++ [')']))) =
      some (Nat.toDigits 10 precision, ',' :: (Nat.toDigits 10 scale ++ [')'])) := by
    rw [trimStart_toDigits, takeNumeral_toDigits precision _ (by decide)]
  have hsecond : takeSecond (',' :: (Nat.toDigits 10 scale ++ [')'])) =
      some (some (Nat.toDigits 10 scale), [')']) := by
    rw [takeSecond, trimStart_toDigits, takeNumeral_toDigits scale [] (by decide)]
    rfl
  have hcomma : dropUnit (trimStart (',' :: (Nat.toDigits 10 scale ++ [')']))) =
      ',' :: (Nat.toDigits 10 scale ++ [')']) := rfl
  have hat : qualifierAt (Nat.toDigits 10 precision ++ ',' :: (Nat.toDigits 10 scale ++ [')'])) =
      some ⟨some (precision : Int), some (scale : Int), false⟩ := by
    rw [qualifierAt_of_numeral hnumeral, hcomma, hsecond, readInt64_toDigits hp]
    simp [readInt64_toDigits hs]
  rw [sizeSuffix, firstQualifier_append h, hat, Option.some_or]

/-! ## Declared types -/

/-- The type names of a dialect that are declared as they are. -/
def TypeStyle.fixedNames (types : TypeStyle) : List String :=
  [types.boolName, types.byteName, types.smallName, types.intName, types.longName,
    types.decimalName ++ "(20,10)", types.dateTimeName, types.timeName, types.textName,
    types.unicodeTextName, types.guidName, match types.bytes with
      | .single name => name
      | .sized _ _ unlimited => unlimited]

/-- The type names of a dialect that are declared with a width. -/
def TypeStyle.widthNames (types : TypeStyle) : List String :=
  [types.stringName, types.unicodeName] ++ match types.bytes with
    | .single _ => []
    | .sized name _ _ => [name]

/-- **What a declared type looks like.** -/
theorem declare_eq (dialect : Dialect) (r : TypeRequest) :
    dialect.declare r ∈ dialect.types.fixedNames ∨
      (∃ name ∈ dialect.types.widthNames, ∃ width : Nat,
        (dialect.declare r).toList = name.toList ++ widthSuffix width) ∨
      ∃ precision scale : Nat, (dialect.declare r).toList =
        dialect.types.decimalName.toList ++ sizeSuffix precision scale := by
  rw [Dialect.declare, TypeStyle.declare]
  cases r.kind with
  | decimal =>
    simp only [TypeStyle.declareDecimal]
    split
    · exact .inr (.inr ⟨_, _, toList_append_render _ _⟩)
    · exact .inl (by simp [TypeStyle.fixedNames])
  | string =>
    simp only [TypeStyle.declareString]
    split
    · refine .inr (.inl ⟨_, ?_, _, toList_withWidth _ _⟩)
      cases r.unicode <;> simp [TypeStyle.widthNames]
    · refine .inl ?_
      cases r.unicode <;> simp [TypeStyle.fixedNames]
  | byteArray =>
    simp only [TypeStyle.declareBytes]
    cases hbytes : dialect.types.bytes with
    | single name => exact .inl (by simp [TypeStyle.fixedNames, hbytes])
    | sized name limit unlimited =>
      simp only
      split
      · exact .inr (.inl ⟨name, by simp [TypeStyle.widthNames, hbytes], _, toList_withWidth _ _⟩)
      · exact .inl (by simp [TypeStyle.fixedNames, hbytes])
  | _ => exact .inl (by simp [TypeStyle.fixedNames])

end SqlDialects
