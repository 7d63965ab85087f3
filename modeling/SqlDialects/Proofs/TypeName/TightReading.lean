import SqlDialects.Proofs.TypeName.SpelledAlike

/-!
# Readers that skip blanks

A reader that finds the same in a text and in its tight spelling gives one answer to all names that
are spelled alike.  These readers do, each for a reason of its own:

* the search for a word at the beginning of a name (`startsWithWord_tight`) or of a part of a word
  anywhere (`contains_tightFrom`), since marks are no part of words;
* the comparison with a whole name without marks (`isOneOf_tight`), since such a name has no other
  tight spelling;
* the qualifier (`firstQualifier_tightFrom`), which skips white space before each of its parts.
-/

set_option autoImplicit false

namespace SqlDialects

open Text

/-! ## What begins a text -/

/-- A name that holds no marks and ends in a word. -/
def isPlainName (name : Chars) : Bool :=
  name.all (fun c => !isMark c) && name.getLast?.all (fun c => c != ' ')

theorem isPlainName_cons {c : Char} {name : Chars} (h : isPlainName (c :: name) = true) :
    isMark c = false ∧ isPlainName name = true := by
  simp only [isPlainName, List.all_cons, Bool.and_eq_true, Bool.not_eq_true'] at h ⊢
  refine ⟨h.1.1, h.1.2, ?_⟩
  cases name with
  | nil => rfl
  | cons d name => simpa using h.2

theorem isMark_of_mem {name : Chars} (h : isPlainName name = true) :
    ∀ c ∈ name, isMark c = false := by
  simpa using (Bool.and_eq_true_iff.mp h).1

/-- What stands behind a blank that is dropped before a mark. -/
theorem exists_mark {s : Chars} (h : s.head?.any isMark = true) :
    ∃ m rest, s = m :: rest ∧ isMark m = true ∧ m ≠ ' ' := by
  cases s with
  | nil => contradiction
  | cons m rest =>
    refine ⟨m, rest, rfl, by simpa using h, ?_⟩
    rintro rfl
    contradiction

theorem after?_tight {name : Chars} (h : isPlainName name = true) (s : Chars) :
    after? name (tight s) = (after? name s).map tight := by
  induction name generalizing s with
  | nil => rfl
  | cons c name ih =>
    obtain ⟨hmark, hname⟩ := isPlainName_cons h
    have hne {d m : Char} (hd : isMark d = false) (hm : isMark m = true) : d ≠ m := by
      rintro rfl
      exact Bool.noConfusion (hd.symm.trans hm)
    cases s with
    | nil => rfl
    | cons d s =>
      rw [tight, tightFrom]
      split
      · next hdrop =>
        -- the blank that is dropped stands before a mark, and the name goes on with none
        obtain ⟨rfl, hnext⟩ := hdrop
        obtain ⟨m, s, rfl, hm, hblank⟩ := exists_mark (by simpa using hnext)
        rw [tightFrom_cons_of_ne hblank, after?, if_neg (hne hmark hm), after?]
        split
        · next hc =>
          subst hc
          cases name with
          | nil => exact Bool.noConfusion h
          | cons d name =>
            rw [after?, if_neg (hne (isPlainName_cons hname).1 hm)]
            rfl
        · rfl
      · rw [after?, after?]
        split
        · next hcd => rw [← hcd, hmark, ← tight, ih hname]
        · rfl

theorem endsWord_tight (s : Chars) : endsWord (tight s) = endsWord s := by
  have hsolid : [' ', '(', ')', ','].all (fun c => !isWordChar c) = true := by decide +kernel
  rw [List.all_eq_true] at hsolid
  cases s with
  | nil => rfl
  | cons c s =>
    rw [tight, tightFrom]
    split
    · next hdrop =>
      obtain ⟨rfl, hnext⟩ := hdrop
      obtain ⟨m, s, rfl, hm, hne⟩ := exists_mark (by simpa using hnext)
      rw [tightFrom_cons_of_ne hne, endsWord, endsWord, hsolid ' ' List.mem_cons_self,
        hsolid m (by rcases eq_of_isMark hm with rfl | rfl | rfl <;> simp)]
    · rfl

theorem startsWithWord_tight {word : Chars} (h : isPlainName word = true) (s : Chars) :
    startsWithWord word (tight s) = startsWithWord word s := by
  rw [startsWithWord, startsWithWord, after?_tight h]
  cases after? word s with
  | none => rfl
  | some rest => exact endsWord_tight rest

theorem startsWithOneOf_tight {names : List String}
    (h : ∀ name ∈ names, isPlainName name.toList = true) (s : Chars) :
    startsWithOneOf names (tight s) = startsWithOneOf names s := by
  rw [startsWithOneOf, startsWithOneOf, Bool.eq_iff_iff, List.any_eq_true, List.any_eq_true]
  exact exists_congr fun name => and_congr_right fun hname => by
    rw [startsWithWord_tight (h name hname)]

theorem isPrefixOf_eq_isSome_after? (part s : Chars) :
    part.isPrefixOf s = (after? part s).isSome := by
  rw [Bool.eq_iff_iff, List.isPrefixOf_iff_prefix, Option.isSome_iff_exists]
  exact exists_congr fun rest => by rw [after?_eq_some_iff, eq_comm]

theorem isPrefixOf_tight {part : Chars} (h : isPlainName part = true) (s : Chars) :
    part.isPrefixOf (tight s) = part.isPrefixOf s := by
  rw [isPrefixOf_eq_isSome_after?, isPrefixOf_eq_isSome_after?, after?_tight h, Option.isSome_map]

/-! ## What stands in a text -/

/-- A part without white space and marks is found where it was. -/
theorem contains_tightFrom {d : Char} {part : Chars} (hpart : isPlainName (d :: part) = true)
    (hd : d ≠ ' ') (s : Chars) (afterMark : Bool) :
    contains (d :: part) (tightFrom afterMark s) = contains (d :: part) s := by
  obtain ⟨hmark, hname⟩ := isPlainName_cons hpart
  induction s generalizing afterMark with
  | nil => rfl
  | cons c s ih =>
    rw [tightFrom]
    split
    · next hdrop =>
      have hdc : (d == c) = false := by
        rw [hdrop.1]
        simpa using hd
      rw [ih, contains, List.isPrefixOf_cons_cons, hdc, Bool.false_and, Bool.false_or]
    · rw [contains, contains, ih, List.isPrefixOf_cons_cons, List.isPrefixOf_cons_cons]
      by_cases hdc : d = c
      · rw [← hdc, hmark, ← tight, isPrefixOf_tight hname]
      · rw [beq_eq_false_iff_ne.mpr hdc, Bool.false_and, Bool.false_and]

/-- Whether a text may stand inside a single word. -/
def isPartOfWord (part : Chars) : Bool :=
  isPlainName part && part.head?.any (fun c => c != ' ')

theorem contains_tight {part : Chars} (h : isPartOfWord part = true) (s : Chars) :
    contains part (tight s) = contains part s := by
  obtain ⟨hname, hhead⟩ := Bool.and_eq_true_iff.mp h
  cases part with
  | nil => contradiction
  | cons d part => exact contains_tightFrom hname (by simpa using hhead) s false

theorem anyContains_tight {parts : List String}
    (h : ∀ part ∈ parts, isPartOfWord part.toList = true) (s : Chars) :
    parts.any (fun part => contains part.toList (tight s)) =
      parts.any fun part => contains part.toList s := by
  rw [Bool.eq_iff_iff, List.any_eq_true, List.any_eq_true]
  exact exists_congr fun part => and_congr_right fun hpart => by
    rw [contains_tight (h part hpart)]

/-! ## Whole names -/

theorem mem_tightFrom {c : Char} (hc : c ≠ ' ') {s : Chars} (h : c ∈ s) (afterMark : Bool) :
    c ∈ tightFrom afterMark s := by
  induction s generalizing afterMark with
  | nil => contradiction
  | cons d s ih =>
    rw [tightFrom]
    split
    · next hdrop =>
      exact ih ((List.mem_cons.mp h).resolve_left fun heq => hc (heq.trans hdrop.1)) afterMark
    · rcases List.mem_cons.mp h with rfl | h
      · exact List.mem_cons_self
      · exact List.mem_cons_of_mem d (ih h (isMark d))

theorem tight_eq_self {s : Chars} (h : ∀ c ∈ s, isMark c = false) : tight s = s := by
  rw [tight]
  induction s with
  | nil => rfl
  | cons c s ih =>
    have hnext : s.head?.any isMark = false := by
      cases s with
      | nil => rfl
      | cons d s => simpa using h d (by simp)
    rw [tightFrom, if_neg (by simp [hnext]), h c List.mem_cons_self,
      ih fun d hd => h d (List.mem_cons_of_mem c hd)]

/-- A name without marks has no other spelling. -/
theorem tight_eq_iff {name : Chars} (h : ∀ c ∈ name, isMark c = false) {s : Chars} :
    tight s = name ↔ s = name := by
  constructor
  · intro hs
    rw [← hs, tight_eq_self]
    intro c hc
    by_contra hmark
    have hm : isMark c = true := by simpa using hmark
    have hne : c ≠ ' ' := by
      rintro rfl
      contradiction
    rw [h c (hs ▸ mem_tightFrom hne hc false)] at hm
    contradiction
  · rintro rfl
    exact tight_eq_self h

theorem isOneOf_tight {names : List String}
    (h : ∀ name ∈ names, isPlainName name.toList = true) (s : Chars) :
    isOneOf names (tight s) = isOneOf names s := by
  rw [isOneOf, isOneOf, Bool.eq_iff_iff, List.any_eq_true, List.any_eq_true]
  refine exists_congr fun name => and_congr_right fun hname => ?_
  rw [beq_iff_eq, beq_iff_eq, eq_comm, tight_eq_iff (isMark_of_mem (h name hname)), eq_comm]

/-- The first letter of a name. -/
theorem head?_tight_beq {c : Char} (hmark : isMark c = false) (hblank : c ≠ ' ') (s : Chars) :
    ((tight s).head? == some c) = (s.head? == some c) := by
  cases s with
  | nil => rfl
  | cons d s =>
    rw [tight, tightFrom]
    split
    · next hdrop =>
      obtain ⟨rfl, hnext⟩ := hdrop
      obtain ⟨m, s, rfl, hm, hne⟩ := exists_mark (by simpa using hnext)
      have hmc : m ≠ c := by
        rintro rfl
        exact Bool.noConfusion (hmark.symm.trans hm)
      rw [tightFrom_cons_of_ne hne]
      simp [hmc, hblank.symm]
    · rfl

/-! ## Qualifiers -/

theorem trimStart_tightFrom (s : Chars) (afterMark : Bool) :
    trimStart (tightFrom afterMark s) = tight (trimStart s) := by
  induction s generalizing afterMark with
  | nil => rfl
  | cons c s ih =>
    by_cases hc : isBlank c = true
    · rw [trimStart, trimStart, List.dropWhile_cons_of_pos hc, ← trimStart, ← trimStart, tightFrom]
      split
      · exact ih afterMark
      · rw [trimStart, List.dropWhile_cons_of_pos hc]
        exact ih (isMark c)
    · have hne : c ≠ ' ' := by
        rintro rfl
        exact hc rfl
      rw [trimStart, trimStart, List.dropWhile_cons_of_neg hc, tight, tightFrom_cons_of_ne hne,
        tightFrom_cons_of_ne hne, List.dropWhile_cons_of_neg hc]

theorem ne_blank_of_trimStart {c : Char} {s : Chars} (h : trimStart (c :: s) = c :: s) :
    c ≠ ' ' := by
  rintro rfl
  have hlength := congrArg List.length h
  have hle := (List.dropWhile_sublist (l := s) isBlank).length_le
  rw [trimStart, List.dropWhile_cons_of_pos rfl, List.length_cons] at hlength
  omega

theorem isAnyDigit_of_isMark {c : Char} (h : isMark c = true) : isAnyDigit c = false := by
  rcases eq_of_isMark h with rfl | rfl | rfl <;> decide

theorem ne_blank_of_isAnyDigit {c : Char} (h : isAnyDigit c = true) : c ≠ ' ' := by
  rintro rfl
  revert h
  decide

theorem isMark_of_isAnyDigit {c : Char} (h : isAnyDigit c = true) : isMark c = false :=
  Bool.eq_false_iff.mpr fun hmark => Bool.noConfusion ((isAnyDigit_of_isMark hmark).symm.trans h)

/-- The digits at the front of a text, and what follows them. -/
theorem digits_tight (s : Chars) :
    (tight s).takeWhile isAnyDigit = s.takeWhile isAnyDigit ∧
      (tight s).dropWhile isAnyDigit = tight (s.dropWhile isAnyDigit) := by
  induction s with
  | nil => exact ⟨rfl, rfl⟩
  | cons c s ih =>
    by_cases hc : isAnyDigit c = true
    · rw [tight, tightFrom_cons_of_ne (ne_blank_of_isAnyDigit hc), isMark_of_isAnyDigit hc,
        ← tight, List.takeWhile_cons_of_pos hc, List.takeWhile_cons_of_pos hc,
        List.dropWhile_cons_of_pos hc, List.dropWhile_cons_of_pos hc, ih.1, ih.2]
      exact ⟨rfl, rfl⟩
    · obtain ⟨d, rest, hrest, hd⟩ :
          ∃ d rest, tight (c :: s) = d :: rest ∧ ¬isAnyDigit d = true := by
        rw [tight, tightFrom]
        split
        · next hdrop =>
          obtain ⟨m, rest, rfl, hm, hne⟩ := exists_mark (by simpa using hdrop.2)
          exact ⟨m, _, tightFrom_cons_of_ne hne _ _, by simp [isAnyDigit_of_isMark hm]⟩
        · exact ⟨c, _, rfl, hc⟩
      rw [List.takeWhile_cons_of_neg hc, List.dropWhile_cons_of_neg hc, hrest,
        List.takeWhile_cons_of_neg hd, List.dropWhile_cons_of_neg hd]
      exact ⟨rfl, rfl⟩

theorem takeNumeral_tight (s : Chars) :
    takeNumeral (tight s) = (takeNumeral s).map fun (digits, rest) => (digits, tight rest) := by
  simp only [takeNumeral, digits_tight]
  split <;> rfl

/-- A text without white space in front begins with the same character once it is tight. -/
theorem head?_tight {s : Chars} (h : trimStart s = s) : (tight s).head? = s.head? := by
  cases s with
  | nil => rfl
  | cons c s => rw [tight, tightFrom_cons_of_ne (ne_blank_of_trimStart h), List.head?_cons,
      List.head?_cons]

theorem dropUnit_tight (s : Chars) : dropUnit (tight s) = tight (dropUnit s) := by
  have hunit : ∀ unit ∈ ["byte", "char"],
      after? unit.toList (tight s) = (after? unit.toList s).map tight := fun unit hmem =>
    after?_tight (by revert unit; decide) s
  rw [dropUnit, hunit "byte" (by decide), hunit "char" (by decide), ← Option.map_or, dropUnit]
  cases (after? "byte".toList s).or (after? "char".toList s) with
  | none => rfl
  | some rest => exact trimStart_tightFrom rest false

theorem takeSecond_tight {s : Chars} (h : trimStart s = s) :
    takeSecond (tight s) = (takeSecond s).map fun (second, rest) => (second, tight rest) := by
  cases s with
  | nil => rfl
  | cons c s =>
    rw [tight, tightFrom_cons_of_ne (ne_blank_of_trimStart h), takeSecond.eq_def,
      takeSecond.eq_def]
    by_cases hc : c = ','
    · subst hc
      simp only [trimStart_tightFrom, takeNumeral_tight, Option.map_map]
      cases takeNumeral (trimStart s) with
      | none => rfl
      | some numeral =>
        simp only [Option.map_some, Function.comp_def, tight, trimStart_tightFrom]
    · split
      · next heq => exact absurd (List.cons.inj heq).1 hc
      · split
        · next heq => exact absurd (List.cons.inj heq).1 hc
        · simp only [Option.map_some, tight, tightFrom_cons_of_ne (ne_blank_of_trimStart h)]

theorem trimStart_dropUnit {s : Chars} (h : trimStart s = s) :
    trimStart (dropUnit s) = dropUnit s := by
  rw [dropUnit]
  split
  · exact trimStart_trimStart _
  · exact h

theorem trimStart_of_takeSecond {s rest : Chars} {second : Option Chars} (h : trimStart s = s)
    (hs : takeSecond s = some (second, rest)) : trimStart rest = rest := by
  unfold takeSecond at hs
  split at hs
  · obtain ⟨⟨digits, left⟩, -, hrest⟩ := Option.map_eq_some_iff.mp hs
    obtain ⟨-, rfl⟩ := Prod.mk.inj hrest
    exact trimStart_trimStart left
  · obtain ⟨-, rfl⟩ := Prod.mk.inj (Option.some.inj hs)
    exact h

/-- What stands behind the first number or the word `max`. -/
theorem closed_tight (q : Option Chars → Qualifier) (s : Chars) :
    ((takeSecond (dropUnit (trimStart (tight s)))).bind fun (second, rest) =>
      if rest.head? = some ')' then some (q second) else none) =
    (takeSecond (dropUnit (trimStart s))).bind fun (second, rest) =>
      if rest.head? = some ')' then some (q second) else none := by
  have htrim := trimStart_dropUnit (trimStart_trimStart s)
  rw [tight, trimStart_tightFrom, dropUnit_tight, takeSecond_tight htrim]
  cases hsecond : takeSecond (dropUnit (trimStart s)) with
  | none => rfl
  | some found =>
    obtain ⟨second, rest⟩ := found
    simp only [Option.map_some, Option.bind_some,
      head?_tight (trimStart_of_takeSecond htrim hsecond)]

theorem qualifierAt_tightFrom (s : Chars) (afterMark : Bool) :
    qualifierAt (tightFrom afterMark s) = qualifierAt s := by
  have hmax : after? "max".toList (tight (trimStart s)) =
      (after? "max".toList (trimStart s)).map tight := after?_tight (by decide) (trimStart s)
  simp only [qualifierAt, trimStart_tightFrom, takeNumeral_tight, hmax]
  cases takeNumeral (trimStart s) with
  | some numeral => exact closed_tight (fun second => ⟨_, second.bind readInt64, false⟩) numeral.2
  | none =>
    cases after? "max".toList (trimStart s) with
    | none => rfl
    | some rest => exact closed_tight (fun second => ⟨none, second.bind readInt64, true⟩) rest

/-- The qualifier of a name stands in its tight spelling too. -/
theorem firstQualifier_tightFrom (s : Chars) (afterMark : Bool) :
    firstQualifier (tightFrom afterMark s) = firstQualifier s := by
  induction s generalizing afterMark with
  | nil => rfl
  | cons c s ih =>
    rw [tightFrom]
    split
    · next hdrop =>
      rw [ih, firstQualifier, hdrop.1, if_neg (by decide), Option.none_or]
    · rw [firstQualifier, firstQualifier, ih, qualifierAt_tightFrom]

end SqlDialects
