import SqlDialects.Proofs.BulkLoad.GuessedDates
import SqlDialects.Proofs.BulkLoad.SingleRow

/-!
# A date by itself and a date in a dataset

A text that goes to a date column is read as a date whether its row is inserted by itself or loaded
with a dataset.  A row by itself is read in the order of the culture.  A dataset settles the order
by its texts, and if there is one text only, by the vote of that text.

* **`IsForeignDate`** — a text that is a date in the other order than that of the culture, and in
  that order alone.
* **`insert_value_eq_upload_value_iff`** — both ways store the same value in every column, but for
  foreign dates in columns of dates: a row by itself loses them.
-/

set_option autoImplicit false

namespace SqlDialects

open Text

/-! ## One text -/

/-- **A foreign date** is a date in the order that the culture does not have, votes for that order,
and cannot be read in the order of the culture. -/
def IsForeignDate (culture : Culture) (text : String) : Prop :=
  (DateReader.ofCulture culture).readDateTime text = none ∧
    orderVote text.toList = some culture.dateOrder.other ∧
    ((DateReader.inOtherOrder culture).readDateTime text).isSome = true

section Reading

variable {culture : Culture} {text : String}

/-- The order that a single text settles is the one it votes for. -/
theorem ofSamples_single (culture : Culture) {size : Nat} (hsize : 0 < size)
    (hblank : isBlankText text = false) :
    DateReader.ofSamples culture (sampleTexts [.text text] size) =
      if orderVote text.toList = some culture.dateOrder.other then .inOtherOrder culture
      else .ofCulture culture := by
  obtain ⟨more, rfl⟩ := Nat.exists_eq_succ_of_ne_zero (Nat.ne_of_gt hsize)
  have hsamples : sampleTexts [.text text] (more + 1) = [text] := by
    simp [sampleTexts, SqlValue.text?, hblank]
  have hother : culture.dateOrder.other ≠ culture.dateOrder := by
    cases culture <;> decide
  rw [hsamples, DateReader.ofSamples_eq, DateReader.inOtherOrder]
  by_cases hvote : orderVote text.toList = some culture.dateOrder.other
  · simp [orderVotes, hvote, hother]
  · simp [orderVotes, hvote]

/-- What a cell of text becomes in a column of dates. -/
theorem coerceCell_dateTime (reader : DateReader) (text : String) :
    (coerceCell reader .dateTime (.text text)).1 =
      ((reader.readDateTime text).map SqlValue.dateTime).getD .null := by
  rw [coerceCell]
  split
  · next hblank => rw [readDateTime_of_blank hblank]; rfl
  · rw [readAs, if_neg (by decide)]
    cases reader.readDateTime text <;> rfl

/-- Times of day are read the same by all readers. -/
theorem coerceCell_timeSpan (reader reader' : DateReader) (value : SqlValue) :
    coerceCell reader .timeSpan value = coerceCell reader' .timeSpan value := by
  cases value <;> rfl

/-- What votes against the order of the culture and can be read by it reads the same in both
orders. -/
theorem readDateTime_eq_of_vote (hvote : orderVote text.toList = some culture.dateOrder.other)
    (hread : ((DateReader.ofCulture culture).readDateTime text).isSome = true)
    (reader : DateReader) :
    reader.readDateTime text = (DateReader.ofCulture culture).readDateTime text := by
  refine DateReader.readDateTime_of_isIsoDate ?_ _ _
  by_contra hiso
  exact DateReader.orderVote_ne_other hread (Bool.not_eq_true _ ▸ hiso) hvote

/-- A single text is read the same by the order that it settles and by that of the culture, unless
it is a foreign date. -/
theorem readDateTime_ofSamples_single {size : Nat} (h : ¬(0 < size ∧ IsForeignDate culture text)) :
    (DateReader.ofSamples culture (sampleTexts [.text text] size)).readDateTime text =
      (DateReader.ofCulture culture).readDateTime text := by
  cases hblank : isBlankText text with
  | true => rw [readDateTime_of_blank hblank, readDateTime_of_blank hblank]
  | false =>
    cases size with
    | zero =>
      rw [sampleTexts, List.take_zero, DateReader.ofSamples_eq]
      rfl
    | succ more =>
      rw [ofSamples_single culture (Nat.succ_pos more) hblank]
      by_cases hvote : orderVote text.toList = some culture.dateOrder.other
      · rw [if_pos hvote]
        cases hown : (DateReader.ofCulture culture).readDateTime text with
        | some dt =>
          exact (readDateTime_eq_of_vote hvote (Option.isSome_of_eq_some hown) _).trans hown
        | none =>
          refine Option.not_isSome_iff_eq_none.mp fun hother => h ⟨Nat.succ_pos more, ?_⟩
          exact ⟨hown, hvote, hother⟩
      · rw [if_neg hvote]

end Reading

/-! ## The two values -/

/-- The value that a dataset of one text hands over for a column of the kind. -/
def loadedValue (culture : Culture) (sampleSize : Nat) (kind : Option TypeKind)
    (name text : String) : SqlValue :=
  (DataSet.ofTexts name [some text]).valueFor culture sampleSize 0 kind (.text text)

section Values

variable {culture : Culture} {sampleSize : Nat} {name text : String} {column : Column}

theorem loadedValue_of_isDateLike {kind : TypeKind} (h : kind.isDateLike = true) :
    loadedValue culture sampleSize (some kind) name text =
      (coerceCell (.ofSamples culture (sampleTexts [.text text] sampleSize)) kind
        (.text text)).1 := by
  rw [loadedValue, DataSet.valueFor, if_pos (by rw [h]; rfl)]
  rfl

/-- **Both values are the same in every column** but for foreign dates in columns of dates. -/
theorem boundValue_eq_loadedValue
    (h : ¬(column.type.kind? = some .dateTime ∧ 0 < sampleSize ∧ IsForeignDate culture text)) :
    Table.boundValue (.ofCulture culture) column (.text text) =
      loadedValue culture sampleSize column.type.kind? name text := by
  rw [Table.boundValue]
  cases hkind : column.type.kind? with
  | none => rfl
  | some kind =>
    by_cases hdate : kind.isDateLike = true
    · rw [loadedValue_of_isDateLike hdate]
      show (if kind.isDateLike then _ else _) = _
      rw [if_pos hdate]
      cases kind with
      | timeSpan => rw [coerceCell_timeSpan]
      | dateTime =>
        rw [coerceCell_dateTime, coerceCell_dateTime, readDateTime_ofSamples_single]
        exact fun hforeign => h ⟨hkind, hforeign⟩
      | _ => contradiction
    · rw [Bool.not_eq_true] at hdate
      simp [loadedValue, DataSet.valueFor, hdate]

/-- A foreign date in a column of dates is lost by itself and kept in a dataset. -/
theorem values_of_isForeignDate (hkind : column.type.kind? = some .dateTime)
    (hsize : 0 < sampleSize) (h : IsForeignDate culture text) :
    Table.boundValue (.ofCulture culture) column (.text text) = .null ∧
      ∃ dt, (DateReader.inOtherOrder culture).readDateTime text = some dt ∧
        loadedValue culture sampleSize column.type.kind? name text = .dateTime dt := by
  obtain ⟨hnone, hvote, hother⟩ := h
  obtain ⟨dt, hdt⟩ := Option.isSome_iff_exists.mp hother
  have hblank : isBlankText text = false := by
    rw [← Bool.not_eq_true]
    intro hblank
    rw [readDateTime_of_blank hblank] at hdt
    nomatch hdt
  rw [Table.boundValue, hkind]
  refine ⟨?_, dt, hdt, ?_⟩
  · show (coerceCell _ .dateTime (.text text)).1 = _
    rw [coerceCell_dateTime, hnone]
    rfl
  · rw [loadedValue_of_isDateLike rfl, ofSamples_single culture hsize hblank, if_pos hvote,
      coerceCell_dateTime, hdt]
    rfl

end Values

/-! ## The two ways -/

/-- **One value is bound** for a row, or the insertion fails and no command is given. -/
def BindsOne (value : SqlValue) (outcome : Except SqlError Int) (trace : List Exchange) : Prop :=
  (∃ e, outcome = .error e) ∧ givenCommands trace = [] ∨
    ∃ command, givenCommands trace = [command] ∧ command.parameters.map Prod.snd = [value]

/-- **One value is handed over** for a dataset, or the upload fails and nothing is handed over. -/
def HandsOverOne (value : SqlValue) (outcome : Except SqlError UploadStats)
    (trace : List Exchange) : Prop :=
  (∃ e, outcome = .error e) ∧ handedOver trace = [] ∨
    ∃ c b, handedOver trace = [(c, b)] ∧ b.rows = [[value]]

/-- A row of one text binds the value for the first column that is like the name. -/
theorem Table.insert_bindsOne (t : Table) {columns : List Column} {name : String} {column : Column}
    (hfirst : Table.firstLike columns name = some column) (text : String) (culture : Culture)
    (transaction : Option Transaction) :
    (t.insert [(name, .text text)] culture transaction).run.Ensures fun outcome trace =>
      ∀ infos, describedColumns trace = [infos] → infos.map (Column.ofInfo t) = columns →
        BindsOne (Table.boundValue (.ofCulture culture) column (.text text)) outcome trace := by
  refine (t.insert_ensures _ culture transaction).mono fun outcome trace h => ?_
  intro infos hinfos hcolumns
  refine h.imp_right ?_
  rintro ⟨infos', table, bound, hdescribed, -, hbound, hcommand⟩
  obtain rfl : infos = infos' := List.singleton_inj.mp (hinfos.symm.trans hdescribed)
  rw [hcolumns] at hbound
  obtain ⟨column', quoted, rest, hfirst', -, hrest, rfl⟩ := Table.bindValues_cons.mp hbound
  obtain rfl := Option.some.inj (hfirst.symm.trans hfirst')
  obtain rfl := Except.ok.inj hrest
  refine ⟨_, hcommand, ?_⟩
  rw [Table.rowCommand, List.map_snd_zip]
  · rfl
  · rw [QueryStyle.length_parametersFor]
    rfl

namespace BulkSession

variable {s : BulkSession} {name text : String} {column : Column} {place : Nat}

/-- A name that resolves to a place is mapped there. -/
theorem pairs_of_map_singleton {m : ColumnMapping}
    (hresolves : resolveName (s.knownColumns.map Column.name) name = .column place)
    (h : s.map [name] = .ok m) : m.pairs = [(0, place)] := by
  simp only [map, mapColumns, addInputs, addInput, hresolves] at h
  exact (Except.ok.inj h) ▸ rfl

theorem isRectangular_ofTexts (name : String) (values : List (Option String)) :
    (DataSet.ofTexts name values).IsRectangular := by
  simp [DataSet.IsRectangular, DataSet.ofTexts]

/-- The rows of a dataset of one text have its value only. -/
theorem rows_of_rowsFor {m : ColumnMapping} (hcolumns : s.columns.isSome)
    (hmap : s.map [name] = .ok m)
    (hresolves : resolveName (s.knownColumns.map Column.name) name = .column place)
    (hplace : s.knownColumns[place]? = some column) {b : BulkInsert} {nulled : Nat}
    (h : s.rowsFor m (DataSet.ofTexts name [some text]) = .ok (b, nulled)) :
    b.rows = [[loadedValue s.settings.culture s.settings.sampleSize column.type.kind? name
      text]] := by
  have hmaps : s.Maps (DataSet.ofTexts name [some text]) m := ⟨hcolumns, hmap⟩
  obtain ⟨wrapped, hcarries⟩ := rowsFor_carries (isRectangular_ofTexts name _) hmaps h
  have hpairs := pairs_of_map_singleton hresolves hmap
  obtain ⟨column', hcolumn', -, -, hvalues⟩ := hcarries.placed 0 0 place (by rw [hpairs]; rfl)
  obtain rfl := Option.some.inj (hplace.symm.trans hcolumn')
  obtain ⟨loaded, value, hloaded, hvalue, hcell⟩ := hvalues 0 [.text text] rfl
  obtain rfl := Option.some.inj hvalue
  obtain ⟨row, hrows⟩ := List.length_eq_one_iff.mp hcarries.rows_length
  obtain rfl : row = loaded := by
    rw [hrows] at hloaded
    exact Option.some.inj hloaded
  have hlength : row.length = 1 := by
    rw [hcarries.row_length row (hrows ▸ List.mem_singleton_self row), hpairs]
    rfl
  obtain ⟨cell, rfl⟩ := List.length_eq_one_iff.mp hlength
  rw [hrows, Option.some.inj hcell, loadedValue]

/-- A dataset of one text hands over the value for the column that its name resolves to. -/
theorem upload_handsOverOne (s : BulkSession) {columns : List Column}
    (hresolves : resolveName (columns.map Column.name) name = .column place)
    (hplace : columns[place]? = some column) (text : String) :
    (s.upload (DataSet.ofTexts name [some text])).Ensures fun result trace =>
      result.2.columns = some columns →
        HandsOverOne (loadedValue s.settings.culture s.settings.sampleSize column.type.kind? name
          text) result.1 trace := by
  refine (s.upload_ensures _).mono fun result trace h hcolumns => ?_
  rcases h with ⟨e, rfl, hinforms⟩ | ⟨first, second, rfl, hinforms, huploads⟩
  · exact .inl ⟨⟨e, rfl⟩, hinforms.handedOver_eq_nil⟩
  obtain ⟨outcome, after⟩ := result
  have hsettings : after.settings = s.settings := by
    cases hinforms <;> rfl
  have hknown : after.knownColumns = columns := by
    rw [knownColumns, hcolumns, Option.getD_some]
  rw [HandsOverOne, hinforms.handedOver_append, ← hsettings]
  cases huploads with
  | notMapped _ | notReady _ _ _ => exact .inl ⟨⟨_, rfl⟩, rfl⟩
  | empty _ hrows => contradiction
  | @inserted m hmap _ b nulled hready inserted _ hinserts =>
    have hrows : b.rows = _ := rows_of_rowsFor (Option.isSome_of_eq_some hcolumns) hmap
      (hknown ▸ hresolves) (hknown ▸ hplace) hready
    rcases hinserts.handedOver_eq with hone | ⟨hnone, -, e, rfl⟩
    · exact .inr ⟨_, b, hone, hrows⟩
    · exact .inl ⟨⟨e, rfl⟩, hnone⟩

/-- **Single rows and datasets store the same value**, but for foreign dates.  Where a name leads to
one column in both ways, a row of one text binds the first value and a dataset of the text hands
over the second.  The two are the same unless the column is one of dates and the text a foreign
date, which the row loses and the dataset keeps. -/
theorem insert_value_eq_upload_value_iff (s : BulkSession) {columns : List Column}
    {name : String} {column : Column} {place : Nat}
    (hfirst : Table.firstLike columns name = some column)
    (hresolves : resolveName (columns.map Column.name) name = .column place)
    (hplace : columns[place]? = some column) (text : String) (transaction : Option Transaction) :
    ((s.table.insert [(name, .text text)] s.settings.culture transaction).run.Ensures
      fun outcome trace => ∀ infos, describedColumns trace = [infos] →
        infos.map (Column.ofInfo s.table) = columns →
        BindsOne (Table.boundValue (.ofCulture s.settings.culture) column (.text text)) outcome
          trace) ∧
    ((s.upload (DataSet.ofTexts name [some text])).Ensures fun result trace =>
      result.2.columns = some columns →
        HandsOverOne (loadedValue s.settings.culture s.settings.sampleSize column.type.kind? name
          text) result.1 trace) ∧
    (Table.boundValue (.ofCulture s.settings.culture) column (.text text) =
        loadedValue s.settings.culture s.settings.sampleSize column.type.kind? name text ↔
      ¬(column.type.kind? = some .dateTime ∧ 0 < s.settings.sampleSize ∧
        IsForeignDate s.settings.culture text)) ∧
    (column.type.kind? = some .dateTime → 0 < s.settings.sampleSize →
      IsForeignDate s.settings.culture text →
      Table.boundValue (.ofCulture s.settings.culture) column (.text text) = .null ∧
        ∃ dt, (DateReader.inOtherOrder s.settings.culture).readDateTime text = some dt ∧
          loadedValue s.settings.culture s.settings.sampleSize column.type.kind? name text =
            .dateTime dt) := by
  refine ⟨s.table.insert_bindsOne hfirst text s.settings.culture transaction,
    s.upload_handsOverOne hresolves hplace text, ⟨fun heq hexcept => ?_,
    boundValue_eq_loadedValue⟩, values_of_isForeignDate⟩
  obtain ⟨hkind, hsize, hforeign⟩ := hexcept
  obtain ⟨hnull, dt, -, hdate⟩ := values_of_isForeignDate hkind hsize hforeign
  rw [hnull, hdate] at heq
  nomatch heq

/-- The day of a visit. -/
def dayColumn : Column :=
  .ofInfo visitsSession.table { name := "Day", sqlType := "date", nullable := true }

/-- The columns of the table of visits. -/
def visitsColumns : List Column :=
  [.ofInfo visitsSession.table { name := "note", sqlType := "varchar(10)", nullable := true },
    dayColumn]

/-- A date that the culture can read is stored alike, though its text votes against the culture. -/
theorem insert_value_eq_upload_value_short_year :
    Table.firstLike visitsColumns "day" = some dayColumn ∧
    resolveName (visitsColumns.map Column.name) "day" = .column 1 ∧
    dayColumn.type.kind? = some .dateTime ∧ orderVote "15-05-06".toList = some .dayFirst ∧
    Table.boundValue (.ofCulture .enUS) dayColumn (.text "15-05-06") =
      loadedValue .enUS 500 dayColumn.type.kind? "day" "15-05-06" := by
  have hfirst : Table.firstLike visitsColumns "day" = some dayColumn := rfl
  have hresolves : resolveName (visitsColumns.map Column.name) "day" = .column 1 := by
    decide +kernel
  have hread : (DateReader.ofCulture .enUS).readDateTime "15-05-06" ≠ none := by decide +kernel
  refine ⟨hfirst, hresolves, by decide +kernel, by decide +kernel, ?_⟩
  exact (visitsSession.insert_value_eq_upload_value_iff hfirst hresolves rfl "15-05-06"
    none).2.2.1.mpr fun hexcept => hread hexcept.2.2.1

/-- A date that only the other order can read is lost in a row and kept in a dataset. -/
theorem insert_value_ne_upload_value :
    (givenCommands ((visitsSession.table.insert [("day", .text "25/12/2020")] .enUS none).run.run
        Script.engine visitsScript).2.1).map Command.parameters = [[("@Day", .null)]] ∧
    (handedOver ((visitsSession.upload (DataSet.ofTexts "day" [some "25/12/2020"])).run
        Script.engine visitsScript).2.1).map (fun sent => sent.2.rows) =
      [[[.dateTime ⟨⟨2020, 12, 25, by decide, by decide⟩, .midnight⟩]]] := by
  decide +kernel

end BulkSession

end SqlDialects
