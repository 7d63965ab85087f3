import SqlDialects.Proofs.BulkLoad.Coercion
import SqlDialects.Proofs.Calendar.OrderVote
import SqlDialects.Proofs.Guess.Order

/-!
# Dates that were guessed and dates that are loaded

The guess for a column reads every text in the order of the culture.  The bulk load reads the texts
in the order that the first of them settle, and loses those that cannot be read so.  The two orders
are the same unless the samples outvote the culture, and of texts that were guessed as dates only
those in ISO notation can vote against it.

* **Every text of the column is read** by the culture if the column was guessed as dates or times
  (`isSome_readAs_of_widenAll`).
* **What is lost** are the texts that the settled order cannot read (`lost_eq_zero_iff`).
* **Nothing is lost** of a column that was guessed, exactly if the ISO dates with short years do not
  outvote the culture, or all texts can be read in the other order too
  (`guessColumn_dates_kept_iff`).  Times of day are never lost.
-/

set_option autoImplicit false

namespace SqlDialects

open Text

/-! ## What was guessed -/

theorem isNumeric_of_isDateLike {kind : TypeKind} (h : kind.isDateLike = true) :
    kind.isNumeric = false := by
  cases kind <;> revert h <;> decide

@[simp] theorem isSome_readAs_dateTime (reader : DateReader) (text : String) :
    (readAs reader .dateTime text).isSome = (reader.readDateTime text).isSome :=
  Option.isSome_map

@[simp] theorem isSome_readAs_timeSpan (reader : DateReader) (text : String) :
    (readAs reader .timeSpan text).isSome = (DateReader.readTime text).isSome :=
  Option.isSome_map

/-- **The culture reads every text** of a column that was guessed as dates or times. -/
theorem isSome_readAs_of_widenAll {settings : GuessSettings} {texts : List String}
    {r : TypeRequest} (h : widenAll (texts.map (guessOf settings)) = some r)
    (hkind : r.kind.isDateLike = true) :
    ∀ text ∈ texts, (readAs (.ofCulture settings.culture) r.kind text).isSome = true := by
  intro text htext
  have hstring : r.kind ≠ .string := by
    intro heq
    rw [heq] at hkind
    nomatch hkind
  have hsame : textKind settings text = r.kind := by
    refine (TypeKind.eq_or_isNumeric_of_le (textKind_le h text htext) hstring).resolve_right ?_
    rintro ⟨-, hnumeric⟩
    exact Bool.noConfusion ((isNumeric_of_isDateLike hkind).symm.trans hnumeric)
  rw [← hsame] at hkind ⊢
  rw [textKind] at hkind ⊢
  have hguess := guessedAs_guessOf settings text
  generalize guessOf settings text = guess at hguess hkind ⊢
  cases hguess with
  | truth => nomatch hkind
  | number _ hnumber =>
    have hnumeric := (isTextRequest_numberGuess? hnumber).2
    exact Bool.noConfusion ((isNumeric_of_isDateLike hkind).symm.trans hnumeric)
  | date _ hdate => exact (isSome_readAs_dateTime _ _).trans hdate
  | time _ htime => exact (isSome_readAs_timeSpan _ _).trans htime
  | string => nomatch hkind

/-! ## What is lost -/

/-- The samples of a column are the first of its texts. -/
theorem sampleTexts_ofText (values : List (Option String)) (size : Nat) :
    sampleTexts (values.map SqlValue.ofText) size = (nonBlankTexts values).take size := by
  have htext : SqlValue.text? ∘ SqlValue.ofText = id := by
    funext value
    cases value <;> rfl
  rw [sampleTexts, List.filterMap_map, htext, nonBlankTexts]

theorem mem_nonBlankTexts {values : List (Option String)} {text : String} :
    text ∈ nonBlankTexts values ↔ some text ∈ values ∧ isBlankText text = false := by
  simp [nonBlankTexts]

/-- **No text is lost** exactly if the reader can read all that say anything. -/
theorem lost_eq_zero_iff (reader : DateReader) (kind : TypeKind) (values : List (Option String)) :
    ((values.map SqlValue.ofText).countP fun value => (coerceCell reader kind value).2) = 0 ↔
      ∀ text ∈ nonBlankTexts values, (readAs reader kind text).isSome = true := by
  have hcell : ∀ text, (coerceCell reader kind (.text text)).2 = true ↔
      isBlankText text = false ∧ readAs reader kind text = none := by
    intro text
    rw [coerceCell]
    cases isBlankText text <;> cases readAs reader kind text <;> simp
  rw [List.countP_eq_zero, List.forall_mem_map]
  constructor
  · intro h text htext
    obtain ⟨hmem, hblank⟩ := mem_nonBlankTexts.mp htext
    have hkept := h (some text) hmem
    rw [SqlValue.ofText, hcell] at hkept
    rw [Option.isSome_iff_ne_none]
    exact fun hnone => hkept ⟨hblank, hnone⟩
  · intro h value hvalue
    cases value with
    | none => exact Bool.false_ne_true
    | some text =>
      rw [SqlValue.ofText, hcell]
      rintro ⟨hblank, hnone⟩
      have hread := h text (mem_nonBlankTexts.mpr ⟨hvalue, hblank⟩)
      rw [hnone] at hread
      contradiction

/-! ## What was guessed and is lost -/

/-- **The samples leave the order of the culture**: the dates in ISO notation that vote against it
do not outvote it. -/
def LeaveOrder (culture : Culture) (samples : List String) : Prop :=
  isoVotes samples culture.dateOrder.other ≤ orderVotes samples culture.dateOrder

instance (culture : Culture) (samples : List String) : Decidable (LeaveOrder culture samples) :=
  inferInstanceAs (Decidable (_ ≤ _))

/-- The reader that has the other order than the culture. -/
def DateReader.inOtherOrder (culture : Culture) : DateReader := ⟨culture, culture.dateOrder.other⟩

/-- Samples that the culture can read change its order only by their ISO dates. -/
theorem ofSamples_of_readable {culture : Culture} {samples : List String}
    (h : ∀ text ∈ samples, ((DateReader.ofCulture culture).readDateTime text).isSome = true) :
    DateReader.ofSamples culture samples =
      if LeaveOrder culture samples then .ofCulture culture else .inOtherOrder culture := by
  have hiso : orderVotes samples culture.dateOrder.other =
      isoVotes samples culture.dateOrder.other := DateReader.orderVotes_other h
  rw [DateReader.ofSamples_eq, hiso]
  by_cases hleave : LeaveOrder culture samples
  · rw [if_pos hleave, if_neg (Nat.not_lt.mpr hleave)]
  · rw [if_neg hleave, if_pos (Nat.not_le.mp hleave), DateReader.inOtherOrder]

/-- **Dates that were guessed and dates that are loaded.**  Of a column of text that was guessed as
dates or times, the bulk load loses nothing, exactly if the samples leave the order of the culture
or every text can be read in the other order too.  Times of day are never lost. -/
theorem guessColumn_dates_kept_iff {settings : GuessSettings} {values : List (Option String)}
    {r : TypeRequest}
    (h : Guesser.basic.guessColumn settings (values.map SqlValue.ofText) = some r)
    (hkind : r.kind.isDateLike = true) {data : DataSet} (hdata : data.IsRectangular) {index : Nat}
    {column : DataColumn} (hcolumn : data.columns[index]? = some column)
    (htext : column.isTextual = true)
    (hvalues : data.columnValues index = values.map SqlValue.ofText) (sampleSize : Nat) :
    ∃ after lost,
      coerceColumns settings.culture sampleSize data [(index, r.kind)] = .ok (after, lost) ∧
      (lost = 0 ↔ (r.kind = .dateTime →
        LeaveOrder settings.culture ((nonBlankTexts values).take sampleSize) ∨
        ∀ text ∈ nonBlankTexts values,
          ((DateReader.inOtherOrder settings.culture).readDateTime text).isSome = true)) := by
  rw [guessColumn_text] at h
  obtain ⟨a, ha, rfl⟩ := Option.map_eq_some_iff.mp h
  rw [kind_dropDigits] at hkind ⊢
  have hread := isSome_readAs_of_widenAll ha hkind
  have hsamples := hvalues ▸ sampleTexts_ofText values sampleSize
  obtain ⟨after, hcoerce, -⟩ := coerceColumn_of_textual hdata hcolumn htext hkind settings.culture
    sampleSize (congrArg (DateReader.ofSamples settings.culture) hsamples)
  refine ⟨after, _, by rw [coerceColumns, hcoerce]; rfl, ?_⟩
  rw [Nat.add_zero, hvalues, lost_eq_zero_iff]
  cases hdate : a.kind with
  | dateTime =>
    rw [hdate] at hread
    simp only [isSome_readAs_dateTime] at hread ⊢
    -- the samples were guessed too, so the order of the culture reads all of them
    rw [ofSamples_of_readable fun text htext => hread text (List.mem_of_mem_take htext)]
    by_cases hleave : LeaveOrder settings.culture ((nonBlankTexts values).take sampleSize)
    · simpa [hleave] using hread
    · simp [hleave]
  | timeSpan =>
    rw [hdate] at hread
    simpa using hread
  | _ =>
    rw [hdate] at hkind
    contradiction

/-- A dataset of one column of text. -/
def DataSet.ofTexts (column : String) (values : List (Option String)) : DataSet where
  name := "in"
  columns := [{ name := column }]
  rows := values.map fun value => [SqlValue.ofText value]

/-- One sample votes for the order of the culture, and one in ISO notation against it. -/
theorem guessColumn_dates_kept_in_a_tie :
    Guesser.basic.guessColumn { culture := .enUS }
      ([some "15-05-06", none, some "2/28/2001", some "01/02/2007"].map SqlValue.ofText) =
        some (.ofKind .dateTime) ∧
    ∃ after lost, coerceColumns .enUS 500
      (.ofTexts "d" [some "15-05-06", none, some "2/28/2001", some "01/02/2007"])
      [(0, .dateTime)] = .ok (after, lost) ∧ lost = 0 := by
  have h : Guesser.basic.guessColumn { culture := .enUS }
      ([some "15-05-06", none, some "2/28/2001", some "01/02/2007"].map SqlValue.ofText) =
        some (.ofKind .dateTime) := by decide
  have hdata : (DataSet.ofTexts "d"
      [some "15-05-06", none, some "2/28/2001", some "01/02/2007"]).IsRectangular := by
    unfold DataSet.IsRectangular
    decide
  have hleave : LeaveOrder .enUS
      ((nonBlankTexts [some "15-05-06", none, some "2/28/2001", some "01/02/2007"]).take 500) := by
    decide
  have hcolumn : (DataSet.ofTexts "d"
      [some "15-05-06", none, some "2/28/2001", some "01/02/2007"]).columns[0]? =
        some { name := "d" } := rfl
  obtain ⟨after, lost, hload, hlost⟩ :=
    guessColumn_dates_kept_iff h rfl hdata hcolumn rfl rfl 500
  exact ⟨h, after, lost, hload, hlost.mpr fun _ => .inl hleave⟩

/-- A date in ISO notation with a short year outvotes the culture, and the other date is lost. -/
theorem guessColumn_dates_lost :
    Guesser.basic.guessColumn { culture := .enUS }
      ([some "15-05-06", some "Jan 13 2001"].map SqlValue.ofText) = some (.ofKind .dateTime) ∧
    (coerceColumns .enUS 500 (.ofTexts "d" [some "15-05-06", some "Jan 13 2001"])
      [(0, .dateTime)]).toOption.map Prod.snd = some 1 := by
  decide

end SqlDialects
