import SqlDialects.Proofs.Text.Trim
import SqlDialects.Proofs.TypeName.Spelling

/-!
# Names that are spelled alike

Two type names are spelled alike if they have the same words, parentheses and commas, whatever the
case of the letters and the white space between all these (`SpelledAlike`).

The canonical spelling takes care of the case and of the white space between words, but it keeps a
blank next to a parenthesis or a comma if there is one.  `tight` drops these blanks, so that names
which are spelled alike have **one tight spelling** (`SpelledAlike.tight_eq`).  The other way round,
blanks put around the marks of a text are dropped again, whatever stands there already
(`tightFrom_spacedMarks`); that is an induction over the text, one case for blanks, one for marks
and one for what words are made of.
-/

set_option autoImplicit false

namespace SqlDialects

open Text

/-! ## Words and marks -/

/-- The parentheses and commas of a type name, which stand for themselves with or without white
space around them. -/
def isMark (c : Char) : Bool := c == '(' || c == ')' || c == ','

/-- The text with blanks around its marks. -/
def spacedMarks (s : Chars) : Chars := s.flatMap fun c => if isMark c then [' ', c, ' '] else [c]

/-- The words and marks of a type name in lower case, in order. -/
def nameParts (sqlType : String) : List Chars := words (spacedMarks (lower sqlType.toList))

/-- The two type names have the same words and marks. -/
def SpelledAlike (a b : String) : Prop := nameParts a = nameParts b

instance (a b : String) : Decidable (SpelledAlike a b) :=
  inferInstanceAs (Decidable (nameParts a = nameParts b))

theorem eq_of_isMark {c : Char} (h : isMark c = true) : c = '(' ∨ c = ')' ∨ c = ',' := by
  simpa [isMark, or_assoc] using h

theorem isBlank_of_isMark {c : Char} (h : isMark c = true) : isBlank c = false := by
  rcases eq_of_isMark h with rfl | rfl | rfl <;> rfl

theorem isMark_of_isBlank {c : Char} (h : isBlank c = true) : isMark c = false := by
  refine Bool.eq_false_iff.mpr fun hmark => ?_
  rw [isBlank_of_isMark hmark] at h
  contradiction

theorem spacedMarks_cons (c : Char) (s : Chars) :
    spacedMarks (c :: s) = (if isMark c then [' ', c, ' '] else [c]) ++ spacedMarks s :=
  List.flatMap_cons

/-! ## Single blanks -/

/-- The words of a text with single blanks between them. -/
def singleBlanks (s : Chars) : Chars := [' '].intercalate (words s)

/-- What follows a character of a word once all blanks are single. -/
def afterSolid (s : Chars) : Chars :=
  if allBlank s then [] else if s.head?.any isBlank then ' ' :: singleBlanks s else singleBlanks s

theorem singleBlanks_cons_blank {c : Char} (hc : isBlank c = true) (s : Chars) :
    singleBlanks (c :: s) = singleBlanks s := by
  simp [singleBlanks, words, wordsFrom, hc]

theorem words_eq_nil_iff {s : Chars} : words s = [] ↔ allBlank s = true := by
  have hpending : ∀ (s pending : Chars), pending ≠ [] → wordsFrom pending s ≠ [] := by
    intro s
    induction s with
    | nil => intro pending hp; simp [wordsFrom, hp]
    | cons c s ih =>
      intro pending hp
      rw [wordsFrom]
      split
      · simp [hp]
      · exact ih _ (List.cons_ne_nil c pending)
  induction s with
  | nil => exact iff_of_true rfl rfl
  | cons c s ih =>
    by_cases hc : isBlank c = true
    · have hwords : words (c :: s) = words s := by simp [words, wordsFrom, hc]
      rw [hwords]
      exact ih.trans (by simp [allBlank, hc])
    · refine iff_of_false ?_ (by simp [allBlank, hc])
      rw [words, wordsFrom, if_neg hc]
      exact hpending s [c] (List.cons_ne_nil c [])

/-- The word being read goes on to the next blank. -/
theorem intercalate_wordsFrom {pending : Chars} (hp : pending ≠ []) (s : Chars) :
    [' '].intercalate (wordsFrom pending s) = pending.reverse ++ afterSolid s := by
  induction s generalizing pending with
  | nil => simp [wordsFrom, hp, afterSolid, allBlank]
  | cons c s ih =>
    by_cases hc : isBlank c = true
    · rw [wordsFrom, if_pos hc, if_neg (by simp [hp]), afterSolid, singleBlanks_cons_blank hc,
        singleBlanks, ← words]
      cases hwords : words s with
      | nil =>
        have hblank : allBlank (c :: s) = true := by
          simpa [allBlank, hc] using words_eq_nil_iff.mp hwords
        simp [hblank]
      | cons w ws =>
        have hsolid : allBlank (c :: s) = false := by
          refine Bool.eq_false_iff.mpr fun hblank => List.cons_ne_nil w ws ?_
          rw [← hwords]
          exact words_eq_nil_iff.mpr (by simpa [allBlank, hc] using hblank)
        simp [hsolid, hc]
    · have hsingle : singleBlanks (c :: s) = c :: afterSolid s := by
        rw [singleBlanks, words, wordsFrom, if_neg hc, ih (List.cons_ne_nil c [])]
        rfl
      rw [wordsFrom, if_neg hc, ih (List.cons_ne_nil c pending), List.reverse_cons,
        List.append_assoc, List.singleton_append, ← hsingle, afterSolid,
        if_neg (by simp [allBlank, hc]), if_neg (by simpa using hc)]

theorem singleBlanks_cons_solid {c : Char} (hc : isBlank c = false) (s : Chars) :
    singleBlanks (c :: s) = c :: afterSolid s := by
  rw [singleBlanks, words, wordsFrom, if_neg (by simp [hc]),
    intercalate_wordsFrom (List.cons_ne_nil c [])]
  rfl

theorem find?_singleBlanks (s : Chars) :
    (singleBlanks s).head? = s.find? fun c => !isBlank c := by
  induction s with
  | nil => rfl
  | cons c s ih =>
    by_cases hc : isBlank c = true
    · rw [singleBlanks_cons_blank hc, ih, List.find?_cons_of_neg (by simp [hc])]
    · rw [singleBlanks_cons_solid (by simpa using hc), List.find?_cons_of_pos (by simpa using hc)]
      rfl

/-! ### Case -/

theorem isBlank_toLower (c : Char) : isBlank c.toLower = isBlank c := by
  have hletter : ∀ d : Char, 65 ≤ d.toNat → d.toNat ≤ 122 → isBlank d = false := by
    intro d h65 h122
    simp only [isBlank, CodeRanges.has, blankRanges, List.any_cons, List.any_nil, Bool.or_false,
      Bool.or_eq_false_iff, Bool.and_eq_false_iff, decide_eq_false_iff_not]
    omega
  by_cases h : c.val ≥ 'A'.val ∧ c.val ≤ 'Z'.val
  · have hc : 65 ≤ c.toNat ∧ c.toNat ≤ 90 := h
    have hlower : c.toLower.toNat = c.toNat + 32 := by
      unfold Char.toLower
      rw [dif_pos h]
      show (c.val + ('a'.val - 'A'.val)).toNat = _
      rw [UInt32.toNat_add, Nat.mod_eq_of_lt]
      · rfl
      · show c.toNat + 32 < 2 ^ 32
        omega
    rw [hletter c hc.1 (by omega), hletter c.toLower (by omega) (by omega)]
  · have hsame : c.toLower = c := dif_neg h
    rw [hsame]

theorem allBlank_lower (s : Chars) : allBlank (lower s) = allBlank s := by
  simp [allBlank, lower, List.all_map, Function.comp_def, isBlank_toLower]

theorem singleBlanks_lower (s : Chars) : singleBlanks (lower s) = lower (singleBlanks s) := by
  induction s with
  | nil => rfl
  | cons c s ih =>
    have hlower : lower (c :: s) = c.toLower :: lower s := rfl
    rw [hlower]
    by_cases hc : isBlank c = true
    · rw [singleBlanks_cons_blank (by rw [isBlank_toLower, hc]), singleBlanks_cons_blank hc, ih]
    · have hsolid : isBlank c = false := by simpa using hc
      rw [singleBlanks_cons_solid (by rw [isBlank_toLower, hsolid]),
        singleBlanks_cons_solid hsolid]
      have hhead : (lower s).head?.any isBlank = s.head?.any isBlank := by
        cases s with
        | nil => rfl
        | cons d s => exact isBlank_toLower d
      have hafter : afterSolid (lower s) = lower (afterSolid s) := by
        rw [afterSolid, afterSolid, allBlank_lower, hhead, ih]
        split
        · rfl
        · split <;> rfl
      rw [hafter]
      rfl

/-! ## Tight names -/

/-- Drops the blanks next to marks; `afterMark` says that a mark has just been passed. -/
def tightFrom (afterMark : Bool) : Chars → Chars
  | [] => []
  | c :: s =>
    if c = ' ' ∧ (afterMark ∨ s.head?.any isMark) then tightFrom afterMark s
    else c :: tightFrom (isMark c) s

/-- The text without the blanks next to its marks. -/
def tight (s : Chars) : Chars := tightFrom false s

theorem tightFrom_cons_of_ne {c : Char} (hc : c ≠ ' ') (afterMark : Bool) (s : Chars) :
    tightFrom afterMark (c :: s) = c :: tightFrom (isMark c) s := by
  rw [tightFrom, if_neg fun h => hc h.1]

theorem tightFrom_true_blank (s : Chars) : tightFrom true (' ' :: s) = tightFrom true s := by
  rw [tightFrom, if_pos ⟨rfl, .inl rfl⟩]

theorem singleBlanks_eq_nil {s : Chars} (h : allBlank s = true) : singleBlanks s = [] := by
  rw [singleBlanks, words_eq_nil_iff.mpr h]
  rfl

theorem allBlank_spacedMarks (s : Chars) : allBlank (spacedMarks s) = allBlank s := by
  induction s with
  | nil => rfl
  | cons c s ih =>
    rw [spacedMarks_cons, allBlank_append, ih]
    by_cases hc : isMark c = true
    · simp [hc, allBlank, isBlank_of_isMark hc]
    · simp [hc, allBlank]

/-- A text begins with a mark just when it does so with blanks around its marks. -/
theorem any_isMark_spacedMarks (s : Chars) :
    (singleBlanks (spacedMarks s)).head?.any isMark = (singleBlanks s).head?.any isMark := by
  have hblank : isBlank ' ' = true := rfl
  rw [find?_singleBlanks, find?_singleBlanks]
  congr 1
  induction s with
  | nil => rfl
  | cons c s ih =>
    rw [spacedMarks_cons, List.find?_append, ih]
    by_cases hc : isMark c = true
    · simp [hc, hblank, isBlank_of_isMark hc]
    · by_cases hc' : isBlank c = true <;> simp [hc, hc']

/-- A blank behind a mark is dropped. -/
theorem tightFrom_true_afterSolid (s : Chars) :
    tightFrom true (afterSolid s) = tightFrom true (singleBlanks s) := by
  rw [afterSolid]
  split
  · next h => rw [singleBlanks_eq_nil h]
  · split
    · exact tightFrom_true_blank _
    · rfl

/-- A blank behind a word is dropped if a mark follows. -/
theorem tight_afterSolid (s : Chars) :
    tight (afterSolid s) =
      if s.head?.any isBlank && !(singleBlanks s).head?.any isMark && !allBlank s then
        ' ' :: tight (singleBlanks s)
      else tight (singleBlanks s) := by
  have hmark : isMark ' ' = false := rfl
  rw [afterSolid]
  by_cases hblank : allBlank s = true
  · simp [hblank, singleBlanks_eq_nil hblank]
  · rw [if_neg hblank]
    by_cases hhead : s.head?.any isBlank = true
    · rw [if_pos hhead, tight, tightFrom]
      by_cases hnext : (singleBlanks s).head?.any isMark = true <;>
        simp [hblank, hhead, hnext, tight, hmark]
    · simp [hhead]

/-- Blanks around the marks change nothing. -/
theorem tightFrom_spacedMarks (s : Chars) (afterMark : Bool) :
    tightFrom afterMark (singleBlanks (spacedMarks s)) = tightFrom afterMark (singleBlanks s) := by
  have hsep : isBlank ' ' = true := rfl
  induction s generalizing afterMark with
  | nil => rfl
  | cons c s ih =>
    rw [spacedMarks_cons]
    by_cases hblank : isBlank c = true
    · rw [if_neg (by simp [isMark_of_isBlank hblank]), List.singleton_append,
        singleBlanks_cons_blank hblank, singleBlanks_cons_blank hblank, ih]
    · have hsolid : isBlank c = false := by simpa using hblank
      have hne : c ≠ ' ' := fun h => hblank (h ▸ hsep)
      by_cases hmark : isMark c = true
      · -- the blanks around a mark are dropped again
        rw [if_pos hmark, List.cons_append, List.cons_append, List.singleton_append,
          singleBlanks_cons_blank hsep, singleBlanks_cons_solid hsolid,
          singleBlanks_cons_solid hsolid, tightFrom_cons_of_ne hne, tightFrom_cons_of_ne hne,
          hmark, tightFrom_true_afterSolid, tightFrom_true_afterSolid,
          singleBlanks_cons_blank hsep, ih]
      · -- behind a word only a mark gets a blank that was not there
        have hhead : ((spacedMarks s).head?.any isBlank && !(singleBlanks s).head?.any isMark) =
            (s.head?.any isBlank && !(singleBlanks s).head?.any isMark) := by
          cases s with
          | nil => rfl
          | cons d s =>
            rw [spacedMarks_cons]
            by_cases hd : isMark d = true
            · simp [hd, singleBlanks_cons_solid (isBlank_of_isMark hd)]
            · simp [hd]
        rw [if_neg hmark, List.singleton_append, singleBlanks_cons_solid hsolid,
          singleBlanks_cons_solid hsolid, tightFrom_cons_of_ne hne, tightFrom_cons_of_ne hne,
          Bool.eq_false_iff.mpr hmark, ← tight, ← tight, tight_afterSolid, tight_afterSolid,
          any_isMark_spacedMarks, allBlank_spacedMarks, hhead]
        simp only [tight, ih]

theorem SpelledAlike.tight_eq {a b : String} (h : SpelledAlike a b) :
    tight (canonicalName a) = tight (canonicalName b) := by
  have htight (sqlType : String) : tight (canonicalName sqlType) =
      tight ([' '].intercalate (nameParts sqlType)) := by
    rw [canonicalName, ← singleBlanks, ← singleBlanks_lower, nameParts, ← singleBlanks]
    exact (tightFrom_spacedMarks _ false).symm
  rw [htight, htight, h]

end SqlDialects
