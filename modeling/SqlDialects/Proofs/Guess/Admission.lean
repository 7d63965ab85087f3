import SqlDialects.Proofs.Guess.Column
import SqlDialects.Proofs.Guess.Digits

/-!
# What a guessed column admits

A column that is guessed as something more special than strings has to take every text that it was
guessed from.  `Admits` says what that means for each kind, in terms of the text alone: an integer
kind takes the integers of its range, a decimal of a certain size the numerals with so many digits
(`FitsSize`), and so on.

* **Texts.**  Each text is admitted by its own guess (`carries_guessOf`).
* **Steps.**  What either of two requests admits, the wider one does too (`carries_widenByText`).
  This needs more than `Admits`: integers turn into decimals on the way, and only the digits that
  they carry tell that the decimals are wide enough.  `Carries` speaks of these digits as well.
* **Runs.**  So every text is admitted by what the whole column is guessed as
  (`guessColumn_admits`).

Digit counts end at the greatest 32-bit word.  That count stands for itself and for everything
beyond, so `WithinCount` does not bound the digits by it.
-/

set_option autoImplicit false

namespace SqlDialects

open Text

/-! ## Numerals -/

/-- The digits before and after the point of a numeral.  A sign or none comes first, there is at
most one point, and the digits may be those of any script. -/
structure IsNumeral (s whole fraction : Chars) : Prop where
  spelling : ∃ sign ∈ [[], ['+'], ['-']],
    s = sign ++ whole ∧ fraction = [] ∨ s = sign ++ (whole ++ '.' :: fraction)
  digits : ∀ c ∈ whole ++ fraction, isAnyDigit c = true
  nonempty : whole ++ fraction ≠ []

/-- So many digits are within a count.  The greatest count stands for any number of digits from
there on. -/
def WithinCount (digits : Nat) (count : UInt32) : Prop :=
  digits ≤ count.toNat ∨ count.toNat = 4294967295

/-- The text is a numeral whose digits are within the size.  Zeros in front of all other digits and
behind them do not count. -/
def FitsSize (s : Chars) (size : DecimalSize) : Prop :=
  ∃ whole fraction, IsNumeral s whole fraction ∧
    WithinCount (dropLeadingZeros whole).length size.beforeDigits ∧
    WithinCount (dropTrailingZeros fraction).length size.scale

theorem WithinCount.mono {digits : Nat} {a b : UInt32} (h : WithinCount digits a)
    (hab : a.toNat ≤ b.toNat) : WithinCount digits b := by
  have hb := b.toNat_lt
  rcases h with h | h
  · exact .inl (h.trans hab)
  · exact .inr (by omega)

theorem withinCount_clamp {digits n : Nat} (h : digits ≤ n) :
    WithinCount digits (DecimalSize.clamp n) := by
  rw [WithinCount, DecimalSize.clamp, UInt32.toNat_ofNat']
  omega

/-- A size that is wider on both sides takes more. -/
theorem FitsSize.mono {s : Chars} {d e : DecimalSize} (h : FitsSize s d)
    (hbefore : d.beforeDigits.toNat ≤ e.beforeDigits.toNat)
    (hafter : d.scale.toNat ≤ e.scale.toNat) : FitsSize s e := by
  obtain ⟨whole, fraction, hs, hwhole, hfraction⟩ := h
  exact ⟨whole, fraction, hs, hwhole.mono hbefore, hfraction.mono hafter⟩

/-- The digits of a numeral are within the size that is reckoned from them. -/
theorem fitsSize_of_isNumeral {s whole fraction : Chars} (h : IsNumeral s whole fraction)
    {before after : Nat} (hbefore : byteLength (dropLeadingZeros whole) ≤ before)
    (hafter : byteLength (dropTrailingZeros fraction) ≤ after) :
    FitsSize s (DecimalSize.ofDigits before after) :=
  ⟨whole, fraction, h, withinCount_clamp ((length_le_byteLength _).trans hbefore),
    withinCount_clamp ((length_le_byteLength _).trans hafter)⟩

/-! ## Reading numerals -/

theorem exists_sign_append_dropSign (s : Chars) :
    ∃ sign ∈ [[], ['+'], ['-']], s = sign ++ dropSign s := by
  unfold dropSign
  split
  · exact ⟨['+'], by simp, rfl⟩
  · exact ⟨['-'], by simp, rfl⟩
  · exact ⟨[], by simp, rfl⟩

theorem isNumeral_of_isWholeNumeral {s : Chars} (h : isWholeNumeral s = true) :
    IsNumeral s (dropSign s) [] := by
  obtain ⟨sign, hsign, hs⟩ := exists_sign_append_dropSign s
  simp only [isWholeNumeral, Bool.and_eq_true, Bool.not_eq_true', List.isEmpty_eq_false_iff,
    List.all_eq_true] at h
  refine ⟨⟨sign, hsign, .inl ⟨hs, rfl⟩⟩, ?_, ?_⟩ <;> rw [List.append_nil]
  · exact h.2
  · exact h.1

/-- No digit is a sign, so one sign is all that a whole numeral has. -/
theorem dropSigns_of_isWholeNumeral {s : Chars} (h : isWholeNumeral s = true) :
    dropSigns s = dropSign s := by
  have hdigit : ∀ c, isAnyDigit c = true → c ≠ '+' ∧ c ≠ '-' := by
    refine fun c hc => ⟨?_, ?_⟩ <;> rintro rfl <;> exact absurd hc (by decide)
  simp only [isWholeNumeral, Bool.and_eq_true, Bool.not_eq_true', List.isEmpty_eq_false_iff,
    List.all_eq_true] at h
  have hnone : dropSigns (dropSign s) = dropSign s := by
    cases hd : dropSign s with
    | nil => rfl
    | cons c digits =>
      obtain ⟨hplus, hminus⟩ := hdigit c (h.2 c (by simp [hd]))
      exact List.dropWhile_cons_of_neg (by simp [hplus, hminus])
  have hdrop : ∀ sign ∈ [[], ['+'], ['-']], ∀ t, dropSigns (sign ++ t) = dropSigns t := by
    simp only [List.forall_mem_cons]
    exact ⟨fun _ => rfl, fun _ => rfl, fun _ => rfl, by simp⟩
  obtain ⟨sign, hsign, hs⟩ := exists_sign_append_dropSign s
  calc dropSigns s = dropSigns (sign ++ dropSign s) := congrArg dropSigns hs
    _ = dropSigns (dropSign s) := hdrop sign hsign _
    _ = dropSign s := hnone

theorem isNumeral_of_decimalParts? {s whole fraction : Chars}
    (h : decimalParts? s = some (whole, fraction)) : IsNumeral s whole fraction := by
  obtain ⟨sign, hsign, hs⟩ := exists_sign_append_dropSign s
  simp only [decimalParts?] at h
  split at h
  · next rest hrest =>
    split at h
    · next hdigits =>
      obtain ⟨rfl, rfl⟩ := Prod.mk.inj (Option.some.inj h)
      simp only [Bool.and_eq_true, List.all_eq_true, Bool.not_eq_true', Bool.and_eq_false_iff,
        List.isEmpty_eq_false_iff] at hdigits
      refine ⟨⟨sign, hsign, .inr ?_⟩, ?_, ?_⟩
      · rw [← hrest, List.takeWhile_append_dropWhile]
        exact hs
      · rw [List.forall_mem_append]
        exact ⟨fun c hc => List.mem_takeWhile_imp hc, hdigits.1⟩
      · rw [ne_eq, List.append_eq_nil_iff, not_and_or]
        exact hdigits.2
    · contradiction
  · contradiction

/-! ## Integers -/

/-- A number that lies between two bounds lies between wider ones too. -/
theorem isSome_readInt_mono {least greatest least' greatest' : Int} {s : Chars}
    (h : (readInt least greatest s).isSome = true) (hleast : least' ≤ least)
    (hgreatest : greatest ≤ greatest') : (readInt least' greatest' s).isSome = true := by
  obtain ⟨n, hn⟩ := Option.isSome_iff_exists.mp h
  obtain ⟨hread, hbounds⟩ := Option.filter_eq_some_iff.mp hn
  simp only [Bool.and_eq_true, decide_eq_true_eq] at hbounds
  refine Option.isSome_iff_exists.mpr ⟨n, Option.filter_eq_some_iff.mpr ⟨hread, ?_⟩⟩
  simp only [Bool.and_eq_true, decide_eq_true_eq]
  omega

/-- The wider of two kinds of numbers has no range, or a range that holds that of either. -/
theorem integerRange_wider {j k : TypeKind} (hj : j.isNumeric = true) (hk : k.isNumeric = true) :
    ∀ bounds ∈ (j.wider k).integerRange,
      (∃ inner ∈ j.integerRange, bounds.1 ≤ inner.1 ∧ inner.2 ≤ bounds.2) ∧
      ∃ inner ∈ k.integerRange, bounds.1 ≤ inner.1 ∧ inner.2 ≤ bounds.2 := by
  cases j <;> first | contradiction | (cases k <;> first | contradiction | decide)

/-! ## Texts -/

/-- A numeral is within the digits that are guessed for it, and an integer in the range of its
kind. -/
theorem fitsSize_numberGuess? {s : Chars} {r : TypeRequest} (h : numberGuess? s = some r) :
    FitsSize s r.digits ∧
      ∀ bounds ∈ r.kind.integerRange, (readInt bounds.1 bounds.2 s).isSome = true := by
  rw [numberGuess?] at h
  split at h
  · contradiction
  split at h
  · next hwhole =>
    obtain rfl := Option.some.inj h
    have hfits : FitsSize s (DecimalSize.ofDigits
        (max (byteLength (dropLeadingZeros (dropSigns s))) 1 : Nat) (0 : Nat)) := by
      refine fitsSize_of_isNumeral (isNumeral_of_isWholeNumeral hwhole) ?_ (Nat.le_refl _)
      rw [dropSigns_of_isWholeNumeral hwhole]
      exact Nat.le_max_left _ _
    rw [wholeGuess]
    cases hread : readInt64 s with
    | none => exact ⟨hfits, fun bounds hbounds => by contradiction⟩
    | some n =>
      obtain ⟨hsigned, hrange⟩ := Option.filter_eq_some_iff.mp hread
      simp only
      split
      · next hn =>
        refine ⟨hfits, fun bounds hbounds => ?_⟩
        obtain rfl := Option.some.inj hbounds
        exact Option.isSome_iff_exists.mpr
          ⟨n, Option.filter_eq_some_iff.mpr ⟨hsigned, by simpa using hn⟩⟩
      · refine ⟨hfits, fun bounds hbounds => ?_⟩
        obtain rfl := Option.some.inj hbounds
        exact Option.isSome_iff_exists.mpr ⟨n, hread⟩
  · obtain ⟨⟨whole, fraction⟩, hparts, rfl⟩ := Option.map_eq_some_iff.mp h
    exact ⟨fitsSize_of_isNumeral (isNumeral_of_decimalParts? hparts) (Nat.le_refl _)
      (Nat.le_refl _), fun bounds hbounds => by contradiction⟩

/-- What a request lets in, as long as numbers carry their digits. -/
def Carries (settings : GuessSettings) (r : TypeRequest) (text : String) : Prop :=
  match r.kind with
  | .string => True
  | .bool => isTruthWord (trim text.toList) = true
  | .dateTime => ((DateReader.ofCulture settings.culture).readDateTime text).isSome = true
  | .timeSpan => (DateReader.readTime text).isSome = true
  | kind => FitsSize (trim text.toList) r.digits ∧
      ∀ bounds ∈ kind.integerRange, (readInt bounds.1 bounds.2 (trim text.toList)).isSome = true

theorem carries_of_isNumeric {settings : GuessSettings} {r : TypeRequest} {text : String}
    (h : r.kind.isNumeric = true) :
    Carries settings r text ↔ FitsSize (trim text.toList) r.digits ∧
      ∀ bounds ∈ r.kind.integerRange,
        (readInt bounds.1 bounds.2 (trim text.toList)).isSome = true := by
  rw [Carries]
  cases hk : r.kind with
  | string | bool | dateTime | timeSpan =>
    rw [hk] at h
    contradiction
  | _ => exact Iff.rfl

theorem carries_guessOf (settings : GuessSettings) (text : String) :
    Carries settings (guessOf settings text) text := by
  have hguess := guessedAs_guessOf settings text
  generalize guessOf settings text = r at hguess ⊢
  cases hguess with
  | truth htruth => exact htruth
  | number _ hnumber =>
    rw [carries_of_isNumeric (isTextRequest_numberGuess? hnumber).2]
    exact fitsSize_numberGuess? hnumber
  | date _ hdate => exact hdate
  | time _ htime => exact htime
  | string => trivial

/-! ## Steps -/

theorem toNat_le_max (a b : UInt32) : a.toNat ≤ (max a b).toNat ∧ b.toNat ≤ (max a b).toNat := by
  rw [toNat_max]
  omega

/-- Numbers that have been joined let in what either of them does. -/
theorem carries_numberOf_wider {settings : GuessSettings} {j k : TypeKind} {text : String}
    (hj : j.isNumeric = true) (hk : k.isNumeric = true) {before before' after after' : UInt32}
    (h : Carries settings (numberOf j before after) text ∨
      Carries settings (numberOf k before' after') text) :
    Carries settings (numberOf (j.wider k) (max before before') (max after after')) text := by
  rw [carries_of_isNumeric (isNumeric_wider hj hk)]
  rw [carries_of_isNumeric hj, carries_of_isNumeric hk] at h
  obtain ⟨hbefore, hbefore'⟩ := toNat_le_max before before'
  obtain ⟨hafter, hafter'⟩ := toNat_le_max after after'
  rcases h with ⟨hfits, hrange⟩ | ⟨hfits, hrange⟩
  · refine ⟨hfits.mono hbefore hafter, fun bounds hbounds => ?_⟩
    obtain ⟨inner, hinner, hleast, hgreatest⟩ := (integerRange_wider hj hk bounds hbounds).1
    exact isSome_readInt_mono (hrange inner hinner) hleast hgreatest
  · refine ⟨hfits.mono hbefore' hafter', fun bounds hbounds => ?_⟩
    obtain ⟨inner, hinner, hleast, hgreatest⟩ := (integerRange_wider hj hk bounds hbounds).2
    exact isSome_readInt_mono (hrange inner hinner) hleast hgreatest

/-- **Nothing is lost by widening.**  What either of two requests lets in, the wider one does
too. -/
theorem carries_widenByText {settings : GuessSettings} {a b : TypeRequest} {text : String}
    (ha : IsTextRequest a) (hb : IsTextRequest b)
    (h : Carries settings a text ∨ Carries settings b text) :
    Carries settings (widenByText a b) text := by
  rcases widenByText_cases ha hb with ⟨width, unicode, heq⟩ | hnumeric | ⟨rfl, heq⟩
  · rw [heq]
    trivial
  · obtain ⟨before, after, hae, -⟩ := ha.exists_numberOf hnumeric.1
    obtain ⟨before', after', hbe, -⟩ := hb.exists_numberOf hnumeric.2
    rw [hae, hbe] at h ⊢
    rw [widenByText_number hnumeric.1 hnumeric.2]
    exact carries_numberOf_wider hnumeric.1 hnumeric.2 h
  · rwa [heq, ← or_self (Carries settings b text)]

/-! ## Runs -/

/-- What any request of a run lets in, its end does too. -/
theorem carries_foldl {settings : GuessSettings} {first : TypeRequest} {rest : List TypeRequest}
    {text : String} (hfirst : IsTextRequest first) (hrest : ∀ r ∈ rest, IsTextRequest r)
    (h : ∃ r ∈ first :: rest, Carries settings r text) :
    Carries settings (rest.foldl widenByText first) text := by
  induction rest generalizing first with
  | nil => simpa using h
  | cons second rest ih =>
    rw [List.forall_mem_cons] at hrest
    refine ih (isTextRequest_widenByText hfirst hrest.1) hrest.2 ?_
    obtain ⟨r, hr, hcarries⟩ := h
    rcases List.mem_cons.mp hr with rfl | hr
    · exact ⟨_, List.mem_cons_self, carries_widenByText hfirst hrest.1 (.inl hcarries)⟩
    rcases List.mem_cons.mp hr with rfl | hr
    · exact ⟨_, List.mem_cons_self, carries_widenByText hfirst hrest.1 (.inr hcarries)⟩
    · exact ⟨r, List.mem_cons_of_mem _ hr, hcarries⟩

/-! ## Columns -/

/-- **What a column lets in**, by the kind that it is guessed as. -/
def Admits (settings : GuessSettings) (r : TypeRequest) (text : String) : Prop :=
  match r.kind with
  | .string => True
  | .bool => lower (trim text.toList) = "true".toList ∨ lower (trim text.toList) = "false".toList
  | .dateTime => ((DateReader.ofCulture settings.culture).readDateTime text).isSome = true
  | .timeSpan => (DateReader.readTime text).isSome = true
  | .decimal => ∃ size, r.decimalSize = some size ∧ FitsSize (trim text.toList) size
  | kind => ∃ bounds, kind.integerRange = some bounds ∧
      (readInt bounds.1 bounds.2 (trim text.toList)).isSome = true

theorem admits_dropDigits {settings : GuessSettings} {r : TypeRequest} {text : String}
    (hr : IsTextRequest r) (h : Carries settings r text) : Admits settings (dropDigits r) text := by
  cases hr with
  | truth =>
    have htruth : isTruthWord (trim text.toList) = true := h
    rwa [isTruthWord, Bool.or_eq_true, beq_iff_eq, beq_iff_eq] at htruth
  | @number kind before after hkind =>
    rw [carries_of_isNumeric hkind] at h
    cases kind with
    | decimal => exact ⟨_, rfl, h.1⟩
    | int16 | int32 | int64 | byte => exact ⟨_, rfl, h.2 _ rfl⟩
    | _ => contradiction
  | date | time => exact h
  | string => trivial

/-- **A guessed column admits every text that it was guessed from.** -/
theorem guessColumn_admits {settings : GuessSettings} {values : List (Option String)}
    {r : TypeRequest}
    (h : Guesser.basic.guessColumn settings (values.map SqlValue.ofText) = some r) :
    ∀ text ∈ nonBlankTexts values, Admits settings r text := by
  intro text htext
  rw [guessColumn_text] at h
  obtain ⟨a, ha, rfl⟩ := Option.map_eq_some_iff.mp h
  refine admits_dropDigits (isTextRequest_widenAll ha) ?_
  have hguesses : ∀ guess ∈ (nonBlankTexts values).map (guessOf settings), IsTextRequest guess :=
    isTextRequest_of_mem_map
  have hcarries : ∃ guess ∈ (nonBlankTexts values).map (guessOf settings),
      Carries settings guess text :=
    ⟨_, List.mem_map_of_mem htext, carries_guessOf settings text⟩
  cases hguess : (nonBlankTexts values).map (guessOf settings) with
  | nil => simp [hguess] at hcarries
  | cons first rest =>
    rw [hguess] at ha hguesses hcarries
    obtain rfl := Option.some.inj ha
    rw [List.forall_mem_cons] at hguesses
    exact carries_foldl hguesses.1 hguesses.2 hcarries

/-- Integers in a column of decimals, one of them beyond 64 bits and one in other digits. -/
theorem guessColumn_admits_long_integer :
    Guesser.basic.guessColumn {} ([some "-15", none, some "29.90", some " ",
      some "9999999999999999999", some "٣"].map SqlValue.ofText) = some (numberOf .decimal 19 1) ∧
    ∀ text ∈ nonBlankTexts [some "-15", none, some "29.90", some " ",
      some "9999999999999999999", some "٣"], Admits {} (numberOf .decimal 19 1) text := by
  have h : Guesser.basic.guessColumn {} ([some "-15", none, some "29.90", some " ",
      some "9999999999999999999", some "٣"].map SqlValue.ofText) =
      some (numberOf .decimal 19 1) := by decide
  exact ⟨h, guessColumn_admits h⟩

end SqlDialects
