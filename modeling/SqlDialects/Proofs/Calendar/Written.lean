import Mathlib.Algebra.Group.Nat.Defs
import SqlDialects.DateCoercion
import SqlDialects.Engine.Sqlite
import SqlDialects.Proofs.Calendar.OrderVote

/-!
# Dates that are written are read back

Days and times are written in ISO notation with numbers of a fixed width, years beyond four digits
and years before 0 with a sign, and fractions of a second with as few digits as are exact.

* **Numbers.**  A field takes the digits of a number that fills it (`takeField_padded`), and a year
  and a fraction are read back whatever their lengths (`takeYear_renderYear`,
  `takeFraction_renderFraction`).
* **Days and times** are read back by the first ISO notation with their items (`readFields_render`,
  `readFields_clock`), and no other is tried before it that could read them.
* **Leap seconds** are written as the 60th of their minute.  One that stands elsewhere has no text
  of its own, and is written like the second that follows (`TimeOfDay.asWritten_eq_self_iff`).
* **Storage.**  SQLite keeps dates as these texts, so a date that was stored can be loaded again
  (`stored_dates_reload`).
-/

set_option autoImplicit false

namespace SqlDialects

open Text

/-! ## Numbers -/

theorem isDigit_of_mem_padded {width n : Nat} {c : Char} (h : c ∈ padded width n) :
    c.isDigit = true := by
  rcases List.mem_append.mp h with h | h
  · obtain rfl := (List.mem_replicate.mp h).2
    rfl
  · exact isDigit_of_mem_toDigits h

theorem padded_ne_nil (width n : Nat) : padded width n ≠ [] := by
  simp [padded, Nat.toDigits_ne_nil]

theorem readNat_padded (width n : Nat) : readNat (padded width n) = some n := by
  refine readNat_eq_some_iff.mpr ⟨padded_ne_nil width n, fun c => isDigit_of_mem_padded, ?_⟩
  rw [padded, Nat.ofDigitChars_append, Nat.ofDigitChars_replicate_zero, Nat.mul_zero,
    Nat.ofDigitChars_ten_toDigits]

/-- A number with no more digits than its field has as many as that. -/
theorem length_padded {width n : Nat} (hwidth : 0 < width) (h : n < 10 ^ width) :
    (padded width n).length = width := by
  have hdigits : (Nat.toDigits 10 n).length ≤ width :=
    (Nat.length_toDigits_le_iff (by decide) hwidth).mpr h
  rw [padded, List.length_append, List.length_replicate]
  omega

/-- Digits are taken to the end of the field, or up to a character that is none. -/
theorem takeDigits_of_digits {width : Nat} {digits rest : Chars}
    (hdigits : ∀ c ∈ digits, c.isDigit = true) (hwidth : digits.length ≤ width)
    (hrest : digits.length = width ∨ ∀ c ∈ rest.head?, c.isDigit = false) :
    takeDigits width (digits ++ rest) = (digits, rest) := by
  induction digits generalizing width with
  | nil =>
    cases width with
    | zero => rfl
    | succ width =>
      cases rest with
      | nil => rfl
      | cons c rest =>
        have hc : c.isDigit = false := hrest.resolve_left (by simp) c rfl
        rw [List.nil_append, takeDigits, hc]
        rfl
  | cons c digits ih =>
    cases width with
    | zero => simp at hwidth
    | succ width =>
      rw [List.forall_mem_cons] at hdigits
      rw [List.length_cons] at hwidth hrest
      have hmore : takeDigits width (digits ++ rest) = (digits, rest) :=
        ih hdigits.2 (by omega) (hrest.imp_left (by omega))
      rw [List.cons_append, takeDigits, if_pos hdigits.1, hmore]

theorem takeNumber_padded {width field n : Nat} {rest : Chars}
    (hwidth : (padded width n).length ≤ field)
    (hrest : (padded width n).length = field ∨ ∀ c ∈ rest.head?, c.isDigit = false) :
    takeNumber field (padded width n ++ rest) = some (n, rest) := by
  rw [takeNumber, takeDigits_of_digits (fun c => isDigit_of_mem_padded) hwidth hrest]
  simp only [readNat_padded, Option.map_some]

/-- There is no white space to be taken from a number. -/
theorem trimStart_padded (width n : Nat) (rest : Chars) :
    trimStart (padded width n ++ rest) = padded width n ++ rest := by
  have hdigit : ∀ c ∈ padded width n, isBlank c = false := fun c hc =>
    isBlank_of_isDigit (isDigit_of_mem_padded hc)
  cases hdigits : padded width n with
  | nil => exact absurd hdigits (padded_ne_nil width n)
  | cons c digits =>
    rw [hdigits] at hdigit
    exact List.dropWhile_cons_of_neg (by simp [hdigit c List.mem_cons_self])

/-- **A field takes the number** that fills it, and nothing of what follows. -/
theorem takeField_padded {width n : Nat} (hwidth : 0 < width) (h : n < 10 ^ width)
    (rest : Chars) : takeField width (padded width n ++ rest) = some (n, rest) := by
  have hlength := length_padded hwidth h
  rw [takeField, trimStart_padded, takeNumber_padded hlength.le (.inl hlength)]

/-- A year of four digits. -/
theorem takeYear_padded {n : Nat} (h : n < 10000) (rest : Chars) :
    takeYear (padded 4 n ++ rest) = some ((n : Int), rest) := by
  have hlength : (padded 4 n).length = 4 := length_padded (by decide) h
  have hfront : ∀ c left, padded 4 n ++ rest = c :: left → c.isDigit = true := by
    intro c left heq
    obtain ⟨d, digits, hdigits⟩ := List.exists_cons_of_ne_nil (padded_ne_nil 4 n)
    rw [hdigits, List.cons_append] at heq
    obtain ⟨rfl, -⟩ := List.cons.inj heq
    exact isDigit_of_mem_padded (hdigits ▸ List.mem_cons_self)
  rw [takeYear, trimStart_padded]
  split
  · next heq => exact absurd (hfront _ _ heq) (by decide)
  · next heq => exact absurd (hfront _ _ heq) (by decide)
  · rw [takeNumber_padded hlength.le (.inl hlength)]
    rfl

/-- A year with a sign may have any number of digits, so it ends at a character that is none. -/
theorem takeYear_signed (n : Nat) (rest : Chars) :
    takeYear ('-' :: (padded 4 n ++ '-' :: rest)) = some (-(n : Int), '-' :: rest) ∧
      takeYear ('+' :: (padded 4 n ++ '-' :: rest)) = some ((n : Int), '-' :: rest) := by
  have hnumber : takeNumber (padded 4 n ++ '-' :: rest).length (padded 4 n ++ '-' :: rest) =
      some (n, '-' :: rest) :=
    takeNumber_padded (by rw [List.length_append]; omega) (.inr (by simp))
  have hsign : ∀ c : Char, isBlank c = false → ∀ s, trimStart (c :: s) = c :: s :=
    fun c hc s => List.dropWhile_cons_of_neg (by simp [hc])
  constructor
  · rw [takeYear, hsign '-' (by decide)]
    simp only [hnumber, Option.map_some]
  · rw [takeYear, hsign '+' (by decide)]
    simp only [hnumber, Option.map_some]

/-- **A year is read back** up to the dash behind it. -/
theorem takeYear_renderYear (year : Int) (rest : Chars) :
    takeYear (renderYear year ++ '-' :: rest) = some (year, '-' :: rest) := by
  obtain ⟨hminus, hplus⟩ := takeYear_signed year.natAbs rest
  rw [renderYear]
  split
  · next hyear =>
    rw [takeYear_padded (by omega), Int.toNat_of_nonneg hyear.1]
  split
  · next hneg =>
    rw [List.cons_append, hminus]
    congr 2
    omega
  · next hneg =>
    rw [List.cons_append, hplus]
    congr 2
    omega

/-- The digits behind a point count from the left. -/
theorem takeFraction_point {width n : Nat} (hwidth : 0 < width) (hnine : width ≤ 9)
    (h : n < 10 ^ width) :
    takeFraction ('.' :: padded width n) = some (n * 10 ^ (9 - width), []) := by
  have hlength := length_padded hwidth h
  have htake : takeDigits 9 (padded width n) = (padded width n, []) := by
    have hall : takeDigits 9 (padded width n ++ []) = (padded width n, []) :=
      takeDigits_of_digits (fun c => isDigit_of_mem_padded) (hlength.trans_le hnine)
        (.inr (by simp))
    rwa [List.append_nil] at hall
  rw [takeFraction, htake]
  simp only [readNat_padded, Option.map_some, hlength, List.dropWhile_nil]
  rfl

/-- **A fraction of a second is read back**, however many digits it takes. -/
theorem takeFraction_renderFraction {nano : Nat} (h : nano < 1000000000) :
    takeFraction (renderFraction nano) = some (nano, []) := by
  rw [renderFraction]
  split
  · next hzero => rw [hzero]; rfl
  split
  · rw [takeFraction_point (by decide) (by decide) (by omega)]
    congr 2
    omega
  split
  · rw [takeFraction_point (by decide) (by decide) (by omega)]
    congr 2
    omega
  · rw [takeFraction_point (by decide) (by decide) (by omega)]
    congr 2
    omega

/-! ## No white space -/

theorem not_blank_of_mem_padded (width n : Nat) : ∀ c ∈ padded width n, isBlank c = false :=
  fun _ hc => isBlank_of_isDigit (isDigit_of_mem_padded hc)

theorem not_blank_of_mem_renderYear (year : Int) : ∀ c ∈ renderYear year, isBlank c = false := by
  rw [renderYear]
  split
  · exact not_blank_of_mem_padded 4 _
  · refine List.forall_mem_cons.mpr ⟨?_, not_blank_of_mem_padded 4 _⟩
    split <;> decide

theorem not_blank_of_mem_renderFraction (nano : Nat) :
    ∀ c ∈ renderFraction nano, isBlank c = false := by
  have hpoint : ∀ width n, ∀ c ∈ '.' :: padded width n, isBlank c = false := fun width n =>
    List.forall_mem_cons.mpr ⟨by decide, not_blank_of_mem_padded width n⟩
  rw [renderFraction]
  split
  · exact List.forall_mem_nil _
  split
  · exact hpoint 3 _
  split
  · exact hpoint 6 _
  · exact hpoint 9 _

/-- There is no white space in the text of a day. -/
theorem Date.not_blank_of_mem_render (d : Date) : ∀ c ∈ d.render, isBlank c = false := by
  rw [Date.render, List.forall_mem_append, List.forall_mem_append, List.forall_mem_cons,
    List.forall_mem_cons]
  exact ⟨⟨not_blank_of_mem_renderYear _, by decide, not_blank_of_mem_padded 2 _⟩, by decide,
    not_blank_of_mem_padded 2 _⟩

/-- There is no white space in the text of a time of day. -/
theorem TimeOfDay.not_blank_of_mem_render (t : TimeOfDay) : ∀ c ∈ t.render, isBlank c = false := by
  rw [TimeOfDay.render, List.forall_mem_append, List.forall_mem_append, List.forall_mem_append,
    List.forall_mem_cons, List.forall_mem_cons]
  exact ⟨⟨⟨not_blank_of_mem_padded 2 _, by decide, not_blank_of_mem_padded 2 _⟩, by decide,
    not_blank_of_mem_padded 2 _⟩, not_blank_of_mem_renderFraction _⟩

theorem Date.render_ne_nil (d : Date) : d.render ≠ [] := by
  simp [Date.render]

theorem TimeOfDay.render_ne_nil (t : TimeOfDay) : t.render ≠ [] := by
  simp [TimeOfDay.render]

/-- The text of a day and a time is trimmed. -/
theorem DateTime.trim_render (dt : DateTime) : trim dt.render = dt.render := by
  have hdate : allBlank dt.date.render = false := by
    rw [← Bool.not_eq_true, ← trim_eq_nil_iff, trim_of_solid dt.date.not_blank_of_mem_render]
    exact dt.date.render_ne_nil
  have htime : allBlank dt.time.render = false := by
    rw [← Bool.not_eq_true, ← trim_eq_nil_iff, trim_of_solid dt.time.not_blank_of_mem_render]
    exact dt.time.render_ne_nil
  rw [DateTime.render, DateTime.renderWith, trim, trimStart_append hdate,
    trimStart_of_solid dt.date.not_blank_of_mem_render, List.append_cons, trimEnd_append _ htime,
    trimEnd_of_solid dt.time.not_blank_of_mem_render]

/-! ## Days and times -/

theorem Date.day_le (d : Date) : d.day ≤ 31 := by
  have hdays := d.day_mem
  rw [daysInMonth] at hdays
  grind

theorem Date.ofParts?_self (d : Date) : Date.ofParts? d.year d.month d.day = some d :=
  dif_pos ⟨d.year_mem, d.day_mem⟩

namespace TimeOfDay

/-- The second as it is written: a leap second counts as one more. -/
def writtenSecond (t : TimeOfDay) : Nat := t.second + t.nano / 1000000000

/-- The fraction as it is written. -/
def writtenNano (t : TimeOfDay) : Nat := t.nano % 1000000000

theorem writtenSecond_le (t : TimeOfDay) : t.writtenSecond ≤ 60 := by
  have hsecond := t.second_lt
  have hnano := t.nano_lt
  rw [writtenSecond]
  omega

theorem writtenNano_lt (t : TimeOfDay) : t.writtenNano < 1000000000 := Nat.mod_lt _ (by decide)

/-- A time that has a text of its own: a leap second, if there is one, is the last of its minute. -/
def HasOwnText (t : TimeOfDay) : Prop := t.second = 59 ∨ t.nano < 1000000000

instance (t : TimeOfDay) : Decidable t.HasOwnText := inferInstanceAs (Decidable (_ ∨ _))

/-- **What the text of a time means**: the time itself, or, for a leap second within a minute, the
second that follows. -/
def asWritten (t : TimeOfDay) : TimeOfDay :=
  { t with
    second := min t.writtenSecond 59
    nano := t.writtenNano + t.writtenSecond / 60 * 1000000000
    second_lt := by omega
    nano_lt := by have := t.writtenSecond_le; have := t.writtenNano_lt; omega }

/-- **A time is written as itself** if it has a text of its own, and only then. -/
theorem asWritten_eq_self_iff {t : TimeOfDay} : t.asWritten = t ↔ t.HasOwnText := by
  have hsecond := t.second_lt
  have hnano := t.nano_lt
  constructor
  · intro h
    have hkept : min t.writtenSecond 59 = t.second := congrArg TimeOfDay.second h
    rw [writtenSecond] at hkept
    rw [HasOwnText]
    omega
  · intro h
    rw [HasOwnText] at h
    cases t
    simp only [asWritten, writtenSecond, writtenNano, mk.injEq, true_and] at *
    omega

theorem ofParts?_written (t : TimeOfDay) :
    TimeOfDay.ofParts? t.hour t.minute t.writtenSecond t.writtenNano = some t.asWritten :=
  dif_pos ⟨t.hour_lt, t.minute_lt, t.writtenSecond_le, t.writtenNano_lt⟩

end TimeOfDay

/-- What the text of a day and a time means. -/
def DateTime.asWritten (dt : DateTime) : DateTime := { dt with time := dt.time.asWritten }

theorem DateTime.asWritten_eq_self_iff {dt : DateTime} :
    dt.asWritten = dt ↔ dt.time.HasOwnText := by
  rw [← TimeOfDay.asWritten_eq_self_iff]
  exact ⟨congrArg DateTime.time, fun h => congrArg (DateTime.mk dt.date) h⟩

/-- The fields of a day. -/
def Date.fields (d : Date) : Fields :=
  { year := some d.year, month := some d.month, day := some d.day }

/-- The fields with those that are written of a time of day. -/
def Fields.withTime (f : Fields) (t : TimeOfDay) : Fields :=
  { f with hour24 := some t.hour, minute := some t.minute, second := some t.writtenSecond,
           nano := some t.writtenNano }

@[simp] theorem Date.date?_fields (d : Date) : d.fields.date? = some d := d.ofParts?_self

@[simp] theorem Fields.date?_withTime (f : Fields) (t : TimeOfDay) :
    (f.withTime t).date? = f.date? := rfl

@[simp] theorem Fields.time?_withTime (f : Fields) (t : TimeOfDay) :
    (f.withTime t).time? = some t.asWritten := t.ofParts?_written

/-- **A day is read back** at the front of a text. -/
theorem readFields_render (d : Date) (p : Pattern) (rest : Chars) :
    Pattern.readFields (DatePatterns.isoDay ++ p) {} (d.render ++ rest) =
      p.readFields d.fields rest := by
  have hmonth : ∀ s, takeField 2 (padded 2 d.month ++ s) = some (d.month, s) :=
    takeField_padded (by decide) (by have := d.month_le; omega)
  have hday : ∀ s, takeField 2 (padded 2 d.day ++ s) = some (d.day, s) :=
    takeField_padded (by decide) (by have := d.day_le; omega)
  simp [DatePatterns.isoDay, Date.render, Pattern.readFields, PatternItem.take, after?,
    takeYear_renderYear, hmonth, hday, Date.fields]

/-- **A time of day is read back** at the end of a text. -/
theorem readFields_clock (f : Fields) (t : TimeOfDay) :
    DatePatterns.clock.readFields f t.render = some (f.withTime t) := by
  have hhour : ∀ s, takeField 2 (padded 2 t.hour ++ s) = some (t.hour, s) :=
    takeField_padded (by decide) (by have := t.hour_lt; omega)
  have hminute : ∀ s, takeField 2 (padded 2 t.minute ++ s) = some (t.minute, s) :=
    takeField_padded (by decide) (by have := t.minute_lt; omega)
  have hsecond : ∀ s, takeField 2 (padded 2 t.writtenSecond ++ s) = some (t.writtenSecond, s) :=
    takeField_padded (by decide) (by have := t.writtenSecond_le; omega)
  have hfraction := takeFraction_renderFraction t.writtenNano_lt
  rw [TimeOfDay.render, ← TimeOfDay.writtenSecond, ← TimeOfDay.writtenNano]
  simp [DatePatterns.clock, Pattern.readFields, PatternItem.take, after?, hhour, hminute, hsecond,
    hfraction, Fields.withTime]

theorem readDate_render (d : Date) : DatePatterns.isoDay.readDate d.render = some d := by
  have hread := readFields_render d [] []
  rw [List.append_nil, List.append_nil] at hread
  rw [Pattern.readDate, hread]
  exact d.date?_fields

theorem readTime_clock (t : TimeOfDay) :
    DatePatterns.clock.readTime t.render = some t.asWritten := by
  rw [Pattern.readTime, readFields_clock, Option.bind_some, Fields.time?_withTime]

theorem readDateTime_render (dt : DateTime) :
    Pattern.readDateTime (DatePatterns.isoDay ++ .blank :: DatePatterns.clock) dt.render =
      some dt.asWritten := by
  have hblank : trimStart (' ' :: dt.time.render) = dt.time.render := by
    rw [trimStart, List.dropWhile_cons_of_pos (by decide), ← trimStart,
      trimStart_of_solid dt.time.not_blank_of_mem_render]
  rw [Pattern.readDateTime, DateTime.render, DateTime.renderWith, readFields_render]
  simp [Pattern.readFields, PatternItem.take, hblank, readFields_clock, DateTime.asWritten]

/-! ## Readers -/

namespace DateReader

theorem readDateTime_ofList_render (reader : DateReader) (dt : DateTime) :
    reader.readDateTime (String.ofList dt.render) = some dt.asWritten := by
  refine readDateTime_of_isoDateTimes ?_ reader
  rw [String.toList_ofList, dt.trim_render, DatePatterns.isoDateTimes, List.findSome?_cons,
    readDateTime_render]

theorem readDateTime_ofList_renderDate (reader : DateReader) (d : Date) :
    reader.readDateTime (String.ofList d.render) = some d.atMidnight := by
  have htrim : trim (String.ofList d.render).toList = d.render := by
    rw [String.toList_ofList, trim_of_solid d.not_blank_of_mem_render]
  have hread : DatePatterns.isoDay.readDate (trim (String.ofList d.render).toList) = some d := by
    rw [htrim, readDate_render]
  rw [readDateTime_of_isoDates (p := DatePatterns.isoDay) (by decide) (hread ▸ rfl),
    DatePatterns.isoDates, List.findSome?_cons, hread]
  rfl

theorem readTime_ofList_render (t : TimeOfDay) :
    readTime (String.ofList t.render) = some t.asWritten := by
  rw [readTime, String.toList_ofList, trim_of_solid t.not_blank_of_mem_render, DatePatterns.times,
    List.findSome?_cons, readTime_clock]

/-- Blank text is no time of day. -/
theorem readTime_of_blank {text : String} (h : isBlankText text = true) : readTime text = none := by
  rw [readTime, trim_eq_nil_iff.mpr h]
  decide

end DateReader

/-! ## Dates in a table -/

/-- A text that means something is not blank, and nothing is lost of it. -/
theorem coerceCell_of_readAs {reader : DateReader} {kind : TypeKind} {text : String}
    {value : SqlValue} (h : readAs reader kind text = some value) :
    coerceCell reader kind (.text text) = (value, false) := by
  have hblank : isBlankText text = false := by
    rw [← Bool.not_eq_true]
    intro hblank
    rw [readAs, readDateTime_of_blank hblank, DateReader.readTime_of_blank hblank,
      Option.map_none, Option.map_none, ite_self] at h
    nomatch h
  rw [coerceCell, hblank, h]
  rfl

namespace Sqlite

/-- **A value is kept as a text**: the text is what a table stores of it and what is read back, and
when the text goes to a column of the kind again, it becomes the value `loaded` and is not lost. -/
structure IsKeptAs (reader : DateReader) (kind : TypeKind) (v : SqlValue) (text : String)
    (loaded : SqlValue) : Prop where
  stored : Stored.ofValue v = .text text
  readBack : Sqlite.stored v = .text text
  reloaded : coerceCell reader kind (Sqlite.stored v) = (loaded, false)

theorem isKeptAs_of_readAs {reader : DateReader} {kind : TypeKind} {v loaded : SqlValue}
    {text : String} (hstored : Stored.ofValue v = .text text)
    (hread : readAs reader kind text = some loaded) : IsKeptAs reader kind v text loaded := by
  have hback : Sqlite.stored v = .text text := by
    rw [Sqlite.stored, hstored]
    rfl
  exact ⟨hstored, hback, hback ▸ coerceCell_of_readAs hread⟩

/-- **Dates that are stored can be loaded again.**  Whatever the year, the fraction of the second
and the order in which dates are read, the text that is kept of a date or a time goes to a column of
its kind as what is written, and a day as its midnight.  What is written is the date or time itself,
but for a leap second that is not the last of its minute. -/
theorem stored_dates_reload (reader : DateReader) :
    (∀ dt : DateTime, ∃ text,
      IsKeptAs reader .dateTime (.dateTime dt) text (.dateTime dt.asWritten) ∧
        reader.readDateTime text = some dt.asWritten) ∧
    (∀ d : Date, ∃ text,
      IsKeptAs reader .dateTime (.date d) text (.dateTime d.atMidnight) ∧
        reader.readDateTime text = some d.atMidnight) ∧
    (∀ t : TimeOfDay, ∃ text,
      IsKeptAs reader .timeSpan (.time t) text (.time t.asWritten) ∧
        DateReader.readTime text = some t.asWritten) ∧
    (∀ dt : DateTime, dt.asWritten = dt ↔ dt.time.HasOwnText) ∧
    ∀ t : TimeOfDay, t.asWritten = t ↔ t.HasOwnText := by
  refine ⟨fun dt => ?_, fun d => ?_, fun t => ?_, fun dt => DateTime.asWritten_eq_self_iff,
    fun t => TimeOfDay.asWritten_eq_self_iff⟩
  · have hread := reader.readDateTime_ofList_render dt
    exact ⟨_, isKeptAs_of_readAs rfl (by simp [readAs, hread]), hread⟩
  · have hread := reader.readDateTime_ofList_renderDate d
    exact ⟨_, isKeptAs_of_readAs rfl (by simp [readAs, hread]), hread⟩
  · have hread := DateReader.readTime_ofList_render t
    exact ⟨_, isKeptAs_of_readAs rfl (by simp [readAs, hread]), hread⟩

/-- A leap second long before the year 0. -/
example : Stored.ofValue (.dateTime ⟨⟨-44, 3, 15, by decide, by decide⟩,
    ⟨23, 59, 59, 1500000000, by decide, by decide, by decide, by decide⟩⟩) =
      .text "-0044-03-15 23:59:60.500" := by
  decide +kernel

/-- A third of a leap second behind the fifth second of a minute. -/
def earlyLeapSecond : TimeOfDay :=
  ⟨23, 56, 4, 1333333333, by decide, by decide, by decide, by decide⟩

/-- A leap second within a minute is kept as the second that follows, and comes back as that.  A
time that goes to a column of dates is lost, and so is a date that goes to one of times. -/
theorem stored_dates_not_reloaded :
    Stored.ofValue (.time earlyLeapSecond) = .text "23:56:05.333333333" ∧
    DateReader.readTime "23:56:05.333333333" ≠ some earlyLeapSecond ∧
    (∀ reader : DateReader, reader.readDateTime "2001-02-03 23:56:05.333333333" ≠
      some ⟨⟨2001, 2, 3, by decide, by decide⟩, earlyLeapSecond⟩) ∧
    coerceCell (.ofCulture .invariant) .dateTime (stored (.time .midnight)) = (.null, true) ∧
    coerceCell (.ofCulture .invariant) .timeSpan
      (stored (.date ⟨2001, 2, 3, by decide, by decide⟩)) = (.null, true) := by
  refine ⟨by decide +kernel, by decide +kernel, fun reader => ?_, by decide +kernel,
    by decide +kernel⟩
  have hread := reader.readDateTime_ofList_render
    ⟨⟨2001, 2, 3, by decide, by decide⟩, earlyLeapSecond⟩
  have htext : String.ofList (DateTime.render
      ⟨⟨2001, 2, 3, by decide, by decide⟩, earlyLeapSecond⟩) =
        "2001-02-03 23:56:05.333333333" := by decide +kernel
  rw [← htext, hread]
  decide +kernel

end Sqlite

end SqlDialects
