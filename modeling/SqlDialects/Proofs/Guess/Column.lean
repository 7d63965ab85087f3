import SqlDialects.Guess
import SqlDialects.Proofs.DecimalSize
import SqlDialects.Proofs.Text.Trim

/-!
# Columns of text

A column of texts and nulls is guessed by folding `widenByText` over the guesses for its texts;
nulls and blank texts leave no trace (`guessColumn_text`).  This file says what such a fold goes
through, so that the properties of guesses need not look at the guesser again.

* **Shapes.**  Only a few requests occur on the way, and `IsTextRequest` lists them: truth values,
  numbers with their digits, dates, times, and strings with a width.
* **Steps.**  Two requests of one family widen within the family: `widenByText_number` joins the
  digits of numbers, `widenByText_self` leaves truth values, dates and times alone.  Two requests of
  different families make a string (`widenByText_of_not_sameFamily`), and a string remains one
  whatever comes (`widenByText_string`).  There is nothing else that a step comes to
  (`widenByText_cases`).
* **Runs.**  `isTextRequest_foldl` — every prefix of a column is guessed as a request of these.
-/

set_option autoImplicit false

namespace SqlDialects

open Text

/-! ## The fold over a column -/

/-- A text or nothing, as a value of a column. -/
def SqlValue.ofText : Option String → SqlValue
  | some content => .text content
  | none => .null

/-- The texts of a column that say anything, in order. -/
def nonBlankTexts (values : List (Option String)) : List String :=
  (values.filterMap id).filter fun text => !isBlankText text

/-- The guess for a text that says something. -/
def guessOf (settings : GuessSettings) (text : String) : TypeRequest :=
  (guessText settings text).getD (stringGuess settings text.toList)

theorem guessText_eq (settings : GuessSettings) (text : String) :
    guessText settings text =
      if isBlankText text = true then none else some (guessOf settings text) := by
  have hblank : (trim text.toList).isEmpty = isBlankText text := by
    rw [Bool.eq_iff_iff, List.isEmpty_iff, trim_eq_nil_iff, isBlankText]
  rw [guessOf, guessText]
  simp only [hblank]
  cases isBlankText text with
  | true => rfl
  | false =>
    simp only [Bool.false_eq_true, if_false]
    split
    · rfl
    cases numberGuess? (trim text.toList) with
    | some guess => rfl
    | none =>
      simp only
      split
      · rfl
      split <;> rfl

/-- The guess for several texts together; none without a text. -/
def widenAll : List TypeRequest → Option TypeRequest
  | [] => none
  | first :: rest => some (rest.foldl widenByText first)

/-- A guess goes on from what has been guessed so far. -/
theorem foldl_basicWiden_text (settings : GuessSettings) (values : List (Option String))
    (sofar : List TypeRequest) :
    (values.map SqlValue.ofText).foldl (basicWiden settings) (widenAll sofar) =
      widenAll (sofar ++ (nonBlankTexts values).map (guessOf settings)) := by
  induction values generalizing sofar with
  | nil => simp [nonBlankTexts]
  | cons value values ih =>
    rw [List.map_cons, List.foldl_cons]
    cases value with
    | none =>
      have hstep : basicWiden settings (widenAll sofar) .null = widenAll sofar := by
        cases widenAll sofar <;> rfl
      rw [SqlValue.ofText, hstep, ih]
      rfl
    | some text =>
      by_cases hblank : isBlankText text = true
      · have hstep : basicWiden settings (widenAll sofar) (.text text) = widenAll sofar := by
          rw [basicWiden, guessValue, guessText_eq, if_pos hblank]
          cases widenAll sofar <;> rfl
        have htexts : nonBlankTexts (some text :: values) = nonBlankTexts values := by
          simp [nonBlankTexts, hblank]
        rw [SqlValue.ofText, hstep, ih, htexts]
      · have hstep : basicWiden settings (widenAll sofar) (.text text) =
            widenAll (sofar ++ [guessOf settings text]) := by
          rw [basicWiden, guessValue, guessText_eq, if_neg hblank]
          cases sofar with
          | nil => rfl
          | cons first rest => simp [widenAll, joinGuesses, SqlValue.text?]
        have htexts : nonBlankTexts (some text :: values) = text :: nonBlankTexts values := by
          simp [nonBlankTexts, hblank]
        rw [SqlValue.ofText, hstep, ih, htexts, List.map_cons, List.append_assoc,
          List.singleton_append]

/-- Finishing a guess takes away nothing but its digits. -/
@[simp] theorem kind_dropDigits (r : TypeRequest) : (dropDigits r).kind = r.kind := by
  rw [dropDigits]
  split <;> rfl

@[simp] theorem width_dropDigits (r : TypeRequest) : (dropDigits r).width = r.width := by
  rw [dropDigits]
  split <;> rfl

@[simp] theorem unicode_dropDigits (r : TypeRequest) : (dropDigits r).unicode = r.unicode := by
  rw [dropDigits]
  split <;> rfl

/-- **The guess for a column of text** widens the guesses for its texts, from the first to the
last. -/
theorem guessColumn_text (settings : GuessSettings) (values : List (Option String)) :
    Guesser.basic.guessColumn settings (values.map SqlValue.ofText) =
      (widenAll ((nonBlankTexts values).map (guessOf settings))).map dropDigits :=
  congrArg (Option.map dropDigits) (foldl_basicWiden_text settings values [])

/-! ## Shapes -/

/-- A request for strings of a width. -/
def stringOf (width : UInt32) (unicode : Bool) : TypeRequest :=
  { kind := .string, width := some width, unicode }

/-- A request for numbers of so many digits before and after the point. -/
def numberOf (kind : TypeKind) (before after : UInt32) : TypeRequest :=
  { kind, decimalSize := some ⟨some before, some after⟩ }

/-- The requests that texts are guessed as, one by one or together.  Integers have a digit before
the point and none after it. -/
inductive IsTextRequest : TypeRequest → Prop
  | truth : IsTextRequest (.ofKind .bool)
  | number {kind : TypeKind} {before after : UInt32} (hkind : kind.isNumeric = true)
    (hdigits : kind = .decimal ∨ before ≠ 0 ∧ after = 0) :
    IsTextRequest (numberOf kind before after)
  | date : IsTextRequest (.ofKind .dateTime)
  | time : IsTextRequest (.ofKind .timeSpan)
  | string (width : UInt32) (unicode : Bool) : IsTextRequest (stringOf width unicode)

theorem isTextRequest_wholeGuess (s : Chars) :
    IsTextRequest (wholeGuess s) ∧ (wholeGuess s).kind.isNumeric = true := by
  rw [wholeGuess]
  have hdigits : DecimalSize.clamp
      (max (byteLength (dropLeadingZeros (dropSigns s))) 1 : Nat) ≠ 0 := by
    rw [DecimalSize.clamp, ne_eq, ← UInt32.toNat_inj, UInt32.toNat_ofNat']
    rw [show UInt32.toNat 0 = 0 from rfl]
    omega
  cases readInt64 s with
  | none => exact ⟨.number rfl (.inl rfl), rfl⟩
  | some n =>
    simp only
    split <;> exact ⟨.number rfl (.inr ⟨hdigits, rfl⟩), rfl⟩

theorem isTextRequest_numberGuess? {s : Chars} {r : TypeRequest} (h : numberGuess? s = some r) :
    IsTextRequest r ∧ r.kind.isNumeric = true := by
  rw [numberGuess?] at h
  split at h
  · contradiction
  · split at h
    · rw [← Option.some.inj h]
      exact isTextRequest_wholeGuess s
    · obtain ⟨parts, -, rfl⟩ := Option.map_eq_some_iff.mp h
      exact ⟨.number rfl (.inl rfl), rfl⟩

/-- The ways in which a text is guessed. -/
inductive GuessedAs (settings : GuessSettings) (text : String) : TypeRequest → Prop
  | truth (htruth : isTruthWord (trim text.toList) = true) :
    GuessedAs settings text (.ofKind .bool)
  | number {r : TypeRequest} (htruth : isTruthWord (trim text.toList) = false)
    (hnumber : numberGuess? (trim text.toList) = some r) : GuessedAs settings text r
  | date (htruth : isTruthWord (trim text.toList) = false)
    (hdate : ((DateReader.ofCulture settings.culture).readDateTime text).isSome = true) :
    GuessedAs settings text (.ofKind .dateTime)
  | time (htruth : isTruthWord (trim text.toList) = false)
    (htime : (DateReader.readTime text).isSome = true) :
    GuessedAs settings text (.ofKind .timeSpan)
  | string (htruth : isTruthWord (trim text.toList) = false) :
    GuessedAs settings text (stringGuess settings text.toList)

theorem guessedAs_guessOf (settings : GuessSettings) (text : String) :
    GuessedAs settings text (guessOf settings text) := by
  rw [guessOf, guessText]
  by_cases hblank : (trim text.toList).isEmpty = true
  · rw [if_pos hblank]
    refine .string ?_
    rw [List.isEmpty_iff.mp hblank]
    decide
  rw [if_neg hblank]
  by_cases htruth : isTruthWord (trim text.toList) = true
  · rw [if_pos htruth]
    exact .truth htruth
  rw [if_neg htruth]
  rw [Bool.not_eq_true] at htruth
  cases hnumber : numberGuess? (trim text.toList) with
  | some guess => exact .number htruth hnumber
  | none =>
    simp only
    split
    · next hdate => exact .date htruth hdate
    split
    · next htime => exact .time htruth htime
    · exact .string htruth

theorem isTextRequest_guessOf (settings : GuessSettings) (text : String) :
    IsTextRequest (guessOf settings text) := by
  have hguess := guessedAs_guessOf settings text
  generalize guessOf settings text = r at hguess ⊢
  cases hguess with
  | truth => exact .truth
  | number _ hnumber => exact (isTextRequest_numberGuess? hnumber).1
  | date => exact .date
  | time => exact .time
  | string => exact .string _ _

/-- Truth words, and only they, are guessed as truth values. -/
theorem guessOf_kind_eq_bool_iff (settings : GuessSettings) (text : String) :
    (guessOf settings text).kind = .bool ↔ isTruthWord (trim text.toList) = true := by
  have hguess := guessedAs_guessOf settings text
  generalize guessOf settings text = r at hguess ⊢
  cases hguess with
  | truth htruth => exact iff_of_true rfl htruth
  | number htruth hnumber =>
    have hkind := (isTextRequest_numberGuess? hnumber).2
    refine iff_of_false (fun hbool => ?_) (by simp [htruth])
    rw [hbool] at hkind
    exact absurd hkind (by decide)
  | date htruth | time htruth | string htruth =>
    exact iff_of_false (fun h => TypeKind.noConfusion h) (by simp [htruth])

/-- A text that is guessed as a string is guessed from its characters alone. -/
theorem guessOf_eq_stringGuess {settings : GuessSettings} {text : String}
    (h : (guessOf settings text).kind = .string) :
    guessOf settings text = stringGuess settings text.toList := by
  have hguess := guessedAs_guessOf settings text
  generalize guessOf settings text = r at h hguess ⊢
  cases hguess with
  | string => rfl
  | number _ hnumber =>
    have hkind := (isTextRequest_numberGuess? hnumber).2
    rw [h] at hkind
    exact absurd hkind (by decide)
  | truth | date | time => exact TypeKind.noConfusion h

/-! ## Steps -/

theorem IsTextRequest.eq_ofKind {r : TypeRequest} (h : IsTextRequest r)
    (hnumeric : r.kind.isNumeric = false) (hstring : r.kind ≠ .string) : r = .ofKind r.kind := by
  cases h with
  | truth | date | time => rfl
  | number hkind => exact absurd hkind (Bool.eq_false_iff.mp hnumeric)
  | string => exact absurd rfl hstring

theorem IsTextRequest.exists_stringOf {r : TypeRequest} (h : IsTextRequest r)
    (hstring : r.kind = .string) : ∃ width unicode, r = stringOf width unicode := by
  cases h with
  | string width unicode => exact ⟨width, unicode, rfl⟩
  | @number kind _ _ hkind =>
    rw [show kind = .string from hstring] at hkind
    contradiction
  | _ => contradiction

theorem IsTextRequest.exists_numberOf {r : TypeRequest} (h : IsTextRequest r)
    (hnumeric : r.kind.isNumeric = true) :
    ∃ before after, r = numberOf r.kind before after ∧
      (r.kind = .decimal ∨ before ≠ 0 ∧ after = 0) := by
  cases h with
  | @number kind before after _ hdigits => exact ⟨before, after, rfl, hdigits⟩
  | _ => contradiction

/-- Only strings are marked as unicode. -/
theorem IsTextRequest.unicode_eq_false {r : TypeRequest} (h : IsTextRequest r)
    (hstring : r.kind ≠ .string) : r.unicode = false := by
  cases h with
  | string => exact absurd rfl hstring
  | _ => rfl

/-- The width that a request needs as text. -/
def TypeRequest.room (r : TypeRequest) : UInt32 := r.textWidth.getD 0

theorem IsTextRequest.textWidth_eq {r : TypeRequest} (h : IsTextRequest r) :
    r.textWidth = some r.room := by
  cases h with
  | @number kind => cases kind <;> first | contradiction | rfl
  | _ => rfl

/-- Equal kinds, or two kinds of numbers. -/
def sameFamily (a b : TypeKind) : Bool := a == b || a.isNumeric && b.isNumeric

theorem sameFamily_eq_false_iff {a b : TypeKind} :
    sameFamily a b = false ↔ a ≠ b ∧ (a.isNumeric = false ∨ b.isNumeric = false) := by
  simp [sameFamily, ← Bool.and_eq_false_iff]

theorem isNumeric_of_sameFamily {a b : TypeKind} (h : sameFamily a b = true)
    (ha : a.isNumeric = true) : b.isNumeric = true := by
  rw [sameFamily, Bool.or_eq_true, beq_iff_eq, Bool.and_eq_true] at h
  rcases h with rfl | h
  · exact ha
  · exact h.2

/-- Apart from numbers and strings, a family has one request only. -/
theorem IsTextRequest.eq_of_sameFamily {a b : TypeRequest} (ha : IsTextRequest a)
    (hb : IsTextRequest b) (hnumeric : a.kind.isNumeric = false) (hstring : a.kind ≠ .string)
    (h : sameFamily a.kind b.kind = true) : b = a := by
  have hkind : a.kind = b.kind := by
    simpa [sameFamily, hnumeric] using h
  rw [hb.eq_ofKind (hkind ▸ hnumeric) (hkind ▸ hstring), ha.eq_ofKind hnumeric hstring, hkind]

/-- The kinds along the chain of numbers are numeric, except for truth values. -/
theorem isNumeric_of_numericRank {k : TypeKind} {rank : Nat} (h : k.numericRank = some rank)
    (hk : k ≠ .bool) : k.isNumeric = true := by
  cases k <;> first | contradiction | rfl

/-- The kind of two kinds of numbers that is farther up the chain. -/
def TypeKind.wider (j k : TypeKind) : TypeKind :=
  if k.numericRank.getD 0 ≤ j.numericRank.getD 0 then j else k

theorem isNumeric_wider {j k : TypeKind} (hj : j.isNumeric = true) (hk : k.isNumeric = true) :
    (j.wider k).isNumeric = true := by
  rw [TypeKind.wider]
  split <;> assumption

/-- No kind is farther up than that of decimals. -/
theorem wider_eq_decimal_iff {j k : TypeKind} (hj : j.isNumeric = true)
    (hk : k.isNumeric = true) : j.wider k = .decimal ↔ j = .decimal ∨ k = .decimal := by
  cases j <;> first | contradiction | (cases k <;> first | contradiction | decide)

/-- **Numbers join their digits**, and take the kind that is farther up the chain. -/
theorem widenByText_number {j k : TypeKind} (hj : j.isNumeric = true) (hk : k.isNumeric = true)
    (before before' after after' : UInt32) :
    widenByText (numberOf j before after) (numberOf k before' after') =
      numberOf (j.wider k) (max before before') (max after after') := by
  cases j <;> first | contradiction | (cases k <;> first | contradiction | rfl)

/-- Nothing is gained from the same request again. -/
theorem widenByText_self {r : TypeRequest} (h : IsTextRequest r) : widenByText r r = r := by
  rw [widenByText, if_neg (fun h => h.1 rfl), TypeRequest.widen, if_pos rfl]
  cases h with
  | truth | date | time => rfl
  | number => simp [numberOf, TypeRequest.maxLimit, DecimalSize.combine, DecimalSize.join,
      DecimalSize.maxDigits, word_max_self]
  | string => simp [stringOf, TypeRequest.maxLimit, DecimalSize.combine, word_max_self]

/-- **Different families make a string**, which is a plain one if one of them is that of truth
values. -/
theorem widenByText_of_not_sameFamily {a b : TypeRequest} (ha : IsTextRequest a)
    (hb : IsTextRequest b) (h : sameFamily a.kind b.kind = false) :
    widenByText a b = stringOf (max a.room b.room)
      ((a.unicode || b.unicode) && a.kind != .bool && b.kind != .bool) := by
  obtain ⟨hne, hnumeric⟩ := sameFamily_eq_false_iff.mp h
  rw [widenByText]
  by_cases hbool : a.kind = .bool ∨ b.kind = .bool
  · have hplain : ((a.unicode || b.unicode) && a.kind != .bool && b.kind != .bool) = false := by
      rcases hbool with h | h <;> simp [h]
    rw [if_pos ⟨hne, hbool⟩, ha.textWidth_eq, hb.textWidth_eq, hplain]
    rfl
  · rw [if_neg (fun h => hbool h.2), TypeRequest.widen, if_neg hne, ha.textWidth_eq,
      hb.textWidth_eq]
    obtain ⟨ha', hb'⟩ := not_or.mp hbool
    split
    · next ra rb hra hrb =>
      have hja := isNumeric_of_numericRank hra ha'
      have hjb := isNumeric_of_numericRank hrb hb'
      simp [hja, hjb] at hnumeric
    · simp [stringOf, TypeRequest.maxLimit, bne_iff_ne.mpr ha', bne_iff_ne.mpr hb']

/-- **A string remains one**, but a truth value makes it a plain one. -/
theorem widenByText_string {b : TypeRequest} (hb : IsTextRequest b) (width : UInt32)
    (unicode : Bool) :
    widenByText (stringOf width unicode) b =
      stringOf (max width b.room) ((unicode || b.unicode) && b.kind != .bool) := by
  by_cases hstring : b.kind = .string
  · obtain ⟨width', unicode', rfl⟩ := hb.exists_stringOf hstring
    simp [widenByText, stringOf, TypeRequest.widen, TypeRequest.maxLimit, TypeRequest.room,
      TypeRequest.textWidth, DecimalSize.combine]
  · have hfamily : sameFamily (stringOf width unicode).kind b.kind = false :=
      sameFamily_eq_false_iff.mpr ⟨Ne.symm hstring, .inl rfl⟩
    have hkind : ((stringOf width unicode).kind != .bool) = true := rfl
    rw [widenByText_of_not_sameFamily (.string width unicode) hb hfamily, hkind, Bool.and_true]
    rfl

/-- Equal kinds keep the kind and any mark. -/
theorem widenByText_of_kind_eq {a b : TypeRequest} (h : a.kind = b.kind) :
    (widenByText a b).kind = a.kind ∧ (widenByText a b).unicode = (a.unicode || b.unicode) := by
  rw [widenByText, if_neg (fun hne => hne.1 h), TypeRequest.widen, if_pos h]
  exact ⟨rfl, rfl⟩

/-- Different kinds of numbers make numbers; any other different kinds make a string. -/
theorem widenByText_of_kind_ne {a b : TypeRequest} (ha : IsTextRequest a) (hb : IsTextRequest b)
    (h : a.kind ≠ b.kind) :
    ((a.kind.isNumeric = true ∧ b.kind.isNumeric = true) ∧
      ∃ before after, widenByText a b = numberOf (a.kind.wider b.kind) before after) ∨
    widenByText a b = stringOf (max a.room b.room)
      ((a.unicode || b.unicode) && a.kind != .bool && b.kind != .bool) := by
  by_cases hnumeric : a.kind.isNumeric = true ∧ b.kind.isNumeric = true
  · obtain ⟨before, after, hae, -⟩ := ha.exists_numberOf hnumeric.1
    obtain ⟨before', after', hbe, -⟩ := hb.exists_numberOf hnumeric.2
    refine .inl ⟨hnumeric, max before before', max after after', ?_⟩
    rw [← widenByText_number hnumeric.1 hnumeric.2, ← hae, ← hbe]
  · refine .inr (widenByText_of_not_sameFamily ha hb (sameFamily_eq_false_iff.mpr ⟨h, ?_⟩))
    rwa [not_and_or, Bool.not_eq_true, Bool.not_eq_true] at hnumeric

/-- **What a step comes to**: a string, unless two numbers join their digits or the requests are the
same. -/
theorem widenByText_cases {a b : TypeRequest} (ha : IsTextRequest a) (hb : IsTextRequest b) :
    (∃ width unicode, widenByText a b = stringOf width unicode) ∨
      (a.kind.isNumeric = true ∧ b.kind.isNumeric = true) ∨ (b = a ∧ widenByText a b = a) := by
  by_cases hfamily : sameFamily a.kind b.kind = false
  · exact .inl ⟨_, _, widenByText_of_not_sameFamily ha hb hfamily⟩
  rw [Bool.not_eq_false] at hfamily
  by_cases hnumeric : a.kind.isNumeric = true ∧ b.kind.isNumeric = true
  · exact .inr (.inl hnumeric)
  by_cases hstring : a.kind = .string
  · obtain ⟨width, unicode, rfl⟩ := ha.exists_stringOf hstring
    exact .inl ⟨_, _, widenByText_string hb width unicode⟩
  · have hplain : a.kind.isNumeric = false :=
      Bool.eq_false_iff.mpr fun hja => hnumeric ⟨hja, isNumeric_of_sameFamily hfamily hja⟩
    obtain rfl := ha.eq_of_sameFamily hb hplain hstring hfamily
    exact .inr (.inr ⟨rfl, widenByText_self ha⟩)

/-- What two requests widen to is a request of these again. -/
theorem isTextRequest_widenByText {a b : TypeRequest} (ha : IsTextRequest a)
    (hb : IsTextRequest b) : IsTextRequest (widenByText a b) := by
  rcases widenByText_cases ha hb with ⟨width, unicode, h⟩ | hnumeric | ⟨-, h⟩
  · rw [h]
    exact .string width unicode
  · obtain ⟨before, after, hae, hda⟩ := ha.exists_numberOf hnumeric.1
    obtain ⟨before', after', hbe, hdb⟩ := hb.exists_numberOf hnumeric.2
    rw [hae, hbe, widenByText_number hnumeric.1 hnumeric.2]
    refine .number (isNumeric_wider hnumeric.1 hnumeric.2) ?_
    rw [wider_eq_decimal_iff hnumeric.1 hnumeric.2]
    rcases hda with h | ⟨hbefore, rfl⟩
    · exact .inl (.inl h)
    rcases hdb with h | ⟨-, rfl⟩
    · exact .inl (.inr h)
    · exact .inr ⟨word_max_ne_zero hbefore before', word_max_self 0⟩
  · rw [h]
    exact ha

/-! ## Runs -/

/-- **Every run ends in a request of these.** -/
theorem isTextRequest_foldl {first : TypeRequest} {rest : List TypeRequest}
    (hfirst : IsTextRequest first) (hrest : ∀ r ∈ rest, IsTextRequest r) :
    IsTextRequest (rest.foldl widenByText first) := by
  induction rest generalizing first with
  | nil => exact hfirst
  | cons second rest ih =>
    rw [List.forall_mem_cons] at hrest
    exact ih (isTextRequest_widenByText hfirst hrest.1) hrest.2

theorem isTextRequest_of_mem_map {settings : GuessSettings} {texts : List String} :
    ∀ guess ∈ texts.map (guessOf settings), IsTextRequest guess := by
  rw [List.forall_mem_map]
  exact fun text _ => isTextRequest_guessOf settings text

theorem isTextRequest_widenAll {settings : GuessSettings} {texts : List String} {r : TypeRequest}
    (h : widenAll (texts.map (guessOf settings)) = some r) : IsTextRequest r := by
  cases texts with
  | nil => contradiction
  | cons first rest =>
    rw [← Option.some.inj h]
    exact isTextRequest_foldl (isTextRequest_guessOf settings first) isTextRequest_of_mem_map

/-- The digits that a request carries. -/
def TypeRequest.digits (r : TypeRequest) : DecimalSize := r.decimalSize.getD {}

/-- The digits of several requests together. -/
def joinedDigits (rs : List TypeRequest) : DecimalSize :=
  rs.foldl (fun size r => size.join r.digits) {}

/-- Whether decimals are among the requests. -/
def anyDecimal (rs : List TypeRequest) : Bool := rs.any fun r => r.kind == .decimal

theorem join_empty (size : DecimalSize) : DecimalSize.join {} size = size := by
  obtain ⟨before, after⟩ := size
  cases before <;> cases after <;> rfl

theorem widenByText_numbers {a b : TypeRequest} (ha : IsTextRequest a) (hb : IsTextRequest b)
    (hja : a.kind.isNumeric = true) (hjb : b.kind.isNumeric = true) :
    (widenByText a b).kind = a.kind.wider b.kind ∧
      (widenByText a b).digits = a.digits.join b.digits := by
  obtain ⟨before, after, hae, -⟩ := ha.exists_numberOf hja
  obtain ⟨before', after', hbe, -⟩ := hb.exists_numberOf hjb
  have hstep := widenByText_number hja hjb before before' after after'
  rw [← hae, ← hbe] at hstep
  rw [hstep, hae, hbe]
  exact ⟨rfl, rfl⟩

/-- **A run of numbers** ends in numbers that carry the digits of all of them, and in decimals if
there are any among them. -/
theorem foldl_widenByText_numbers {first : TypeRequest} {rest : List TypeRequest}
    (hfirst : IsTextRequest first) (hnumeric : first.kind.isNumeric = true)
    (hrest : ∀ r ∈ rest, IsTextRequest r ∧ r.kind.isNumeric = true) :
    (rest.foldl widenByText first).kind.isNumeric = true ∧
      ((rest.foldl widenByText first).kind == .decimal) = anyDecimal (first :: rest) ∧
      (rest.foldl widenByText first).digits = joinedDigits (first :: rest) := by
  induction rest generalizing first with
  | nil =>
    refine ⟨hnumeric, by simp [anyDecimal], ?_⟩
    rw [List.foldl_nil, joinedDigits, List.foldl_cons, List.foldl_nil, join_empty]
  | cons second rest ih =>
    rw [List.forall_mem_cons] at hrest
    obtain ⟨⟨hsecond, hnumeric'⟩, hrest⟩ := hrest
    obtain ⟨hkind, hdigits⟩ := widenByText_numbers hfirst hsecond hnumeric hnumeric'
    have hdecimal : anyDecimal (widenByText first second :: rest) =
        anyDecimal (first :: second :: rest) := by
      have hwider := wider_eq_decimal_iff hnumeric hnumeric'
      simp only [anyDecimal, List.any_cons, hkind, ← Bool.or_assoc]
      rw [Bool.eq_iff_iff]
      simp [hwider]
    have hjoined : joinedDigits (widenByText first second :: rest) =
        joinedDigits (first :: second :: rest) := by
      simp only [joinedDigits, List.foldl_cons, hdigits, join_empty]
    rw [List.foldl_cons, ← hdecimal, ← hjoined]
    refine ih (isTextRequest_widenByText hfirst hsecond) ?_ hrest
    rw [hkind]
    exact isNumeric_wider hnumeric hnumeric'

end SqlDialects
