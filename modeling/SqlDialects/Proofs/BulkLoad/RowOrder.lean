import SqlDialects.Proofs.BulkLoad.CoercedColumns
import SqlDialects.Proofs.Calendar.SettledOrder
import SqlDialects.Proofs.ColumnMapping

/-!
# The order of the rows does not count

A column of text is read in the order of day and month that its first texts settle.  Where the
sample takes all of its texts, the order is settled by them as a collection, so that it does not
matter whether the rows are arranged before the dates are read or afterwards
(`coerceColumns_arrangeRows`).

An arrangement of rows is a list of their places, each of them once.  Columns, their kinds and the
primary key have no part in it, so what is to be shown is that the arranged columns settle the same
readers (`readerOf_arrangeRows`).
-/

set_option autoImplicit false

namespace SqlDialects

open Text

namespace DataSet

variable {data after : DataSet} {places : List Nat} {culture : Culture} {sampleSize : Nat}
  {kinds : Nat → Option TypeKind}

/-! ## Arrangements -/

/-- **The rows at the given places**, in that order. -/
def arrangeRows (data : DataSet) (places : List Nat) : DataSet :=
  { data with rows := places.filterMap fun i => data.rows[i]? }

theorem arrangeRows_perm (h : places.Perm (List.range data.rows.length)) :
    (data.arrangeRows places).rows.Perm data.rows := by
  have hself : (List.range data.rows.length).filterMap (fun i => data.rows[i]?) = data.rows := by
    simpa using filterMap_range_eq_drop data.rows 0
  exact (h.filterMap _).trans (.of_eq hself)

theorem IsRectangular.arrangeRows (h : data.IsRectangular) (places : List Nat) :
    (data.arrangeRows places).IsRectangular := by
  intro row hrow
  obtain ⟨i, -, hi⟩ := List.mem_filterMap.mp hrow
  exact h row (List.mem_of_getElem? hi)

theorem columnValues_arrangeRows_perm (h : places.Perm (List.range data.rows.length)) (j : Nat) :
    ((data.arrangeRows places).columnValues j).Perm (data.columnValues j) :=
  (arrangeRows_perm h).map _

/-! ## Readers -/

/-- The texts of a column that are not blank, from which its sample is taken. -/
def textsOf (data : DataSet) (j : Nat) : List String :=
  ((data.columnValues j).filterMap SqlValue.text?).filter fun text => !isBlankText text

/-- A sample as large as the dataset takes all texts of a column. -/
theorem length_textsOf_le (data : DataSet) (j : Nat) :
    (data.textsOf j).length ≤ data.rows.length :=
  calc (data.textsOf j).length
      ≤ ((data.columnValues j).filterMap SqlValue.text?).length := List.length_filter_le ..
    _ ≤ (data.columnValues j).length := List.length_filterMap_le ..
    _ = data.rows.length := List.length_map ..

/-- **An arrangement settles the same reader** for a column whose texts are all in the sample. -/
theorem readerOf_arrangeRows (h : places.Perm (List.range data.rows.length)) {j : Nat}
    (hsize : (data.textsOf j).length ≤ sampleSize) :
    (data.arrangeRows places).readerOf culture sampleSize j =
      data.readerOf culture sampleSize j := by
  have htexts : ((data.arrangeRows places).textsOf j).Perm (data.textsOf j) :=
    ((columnValues_arrangeRows_perm h j).filterMap _).filter _
  show DateReader.ofSamples culture (((data.arrangeRows places).textsOf j).take sampleSize) =
    DateReader.ofSamples culture ((data.textsOf j).take sampleSize)
  rw [List.take_of_length_le hsize, List.take_of_length_le (htexts.length_eq ▸ hsize)]
  exact DateReader.ofSamples_perm htexts culture

theorem readValue_arrangeRows (h : places.Perm (List.range data.rows.length))
    (hsize : ∀ j kind, kinds j = some kind → (data.textsOf j).length ≤ sampleSize) (j : Nat) :
    (data.arrangeRows places).readValue culture sampleSize j (kinds j) =
      data.readValue culture sampleSize j (kinds j) := by
  funext value
  cases hj : kinds j with
  | none => rfl
  | some kind => rw [readValue, readValue, readerOf_arrangeRows h (hsize j kind hj)]

/-! ## Columns that have been read -/

/-- **What has been read may be arranged.** -/
theorem IsCoerced.arrangeRows (hdata : data.IsCoerced after culture sampleSize kinds)
    (h : places.Perm (List.range data.rows.length))
    (hsize : ∀ j kind, kinds j = some kind → (data.textsOf j).length ≤ sampleSize) :
    (data.arrangeRows places).IsCoerced (after.arrangeRows places) culture sampleSize kinds := by
  refine ⟨hdata.name, hdata.columns, ?_, hdata.primaryKey⟩
  simp only [readValue_arrangeRows h hsize]
  rw [DataSet.arrangeRows, DataSet.arrangeRows, hdata.rows, List.map_filterMap]
  exact List.filterMap_congr fun i _ => List.getElem?_map

/-- The arrangement has lost as many texts. -/
theorem IsCoerced.nulledTexts_arrangeRows (hdata : data.IsCoerced after culture sampleSize kinds)
    (h : places.Perm (List.range data.rows.length))
    (hsize : ∀ j kind, kinds j = some kind → (data.textsOf j).length ≤ sampleSize) :
    (data.arrangeRows places).nulledTexts (after.arrangeRows places) = data.nulledTexts after := by
  refine Finset.sum_congr rfl fun j _ => ?_
  rw [(hdata.arrangeRows h hsize).nulledTextsIn_eq, hdata.nulledTextsIn_eq,
    readValue_arrangeRows h hsize]
  exact (columnValues_arrangeRows_perm h j).countP_eq _

end DataSet

/-- **The order of the rows does not count** for the reading of dates, if the sample takes all texts
of every column that is read. -/
theorem coerceColumns_arrangeRows {data : DataSet} (hdata : data.Built) {places : List Nat}
    (h : places.Perm (List.range data.rows.length)) {targets : List (Nat × TypeKind)}
    {sampleSize : Nat}
    (hsize : ∀ j kind, data.IsReadAs targets j kind → (data.textsOf j).length ≤ sampleSize)
    (culture : Culture) :
    ∃ after lost, coerceColumns culture sampleSize data targets = .ok (after, lost) ∧
      coerceColumns culture sampleSize (data.arrangeRows places) targets =
        .ok (after.arrangeRows places, lost) := by
  obtain ⟨after, hrun, hafter⟩ :=
    coerceColumns_isCoerced hdata.isRectangular culture sampleSize targets
  obtain ⟨other, hother, harranged⟩ :=
    coerceColumns_isCoerced (hdata.isRectangular.arrangeRows places) culture sampleSize targets
  have hkinds : ∀ j kind, data.coercedKind? targets j = some kind →
      (data.textsOf j).length ≤ sampleSize := fun j kind hkind =>
    hsize j kind (DataSet.coercedKind?_eq_some_iff.mp hkind)
  obtain rfl := harranged.unique (hafter.arrangeRows h hkinds)
  exact ⟨after, _, hrun, hafter.nulledTexts_arrangeRows h hkinds ▸ hother⟩

/-- The days of the check-ins are read day first, whichever comes first. -/
theorem coerceColumns_arrangeRows_checkIns :
    checkIns.Built ∧ ∃ after,
      coerceColumns .enUS 3 checkIns checkInTargets = .ok (after, 1) ∧
      coerceColumns .enUS 3 (checkIns.arrangeRows [2, 1, 0]) checkInTargets =
        .ok (after.arrangeRows [2, 1, 0], 1) := by
  have hplaces : [2, 1, 0].Perm (List.range checkIns.rows.length) := by decide
  have hsize : ∀ j kind, checkIns.IsReadAs checkInTargets j kind →
      (checkIns.textsOf j).length ≤ 3 := fun j _ _ => checkIns.length_textsOf_le j
  obtain ⟨after, lost, hrun, harranged⟩ :=
    coerceColumns_arrangeRows built_checkIns hplaces hsize .enUS
  have hlost : (coerceColumns .enUS 3 checkIns checkInTargets).toOption.map Prod.snd = some 1 := by
    decide
  rw [hrun] at hlost
  obtain rfl := Option.some.inj hlost
  exact ⟨built_checkIns, after, hrun, harranged⟩

/-- A sample of one text is another one when the rows are arranged. -/
example :
    (coerceColumns .enUS 1 checkIns [(0, .dateTime)]).toOption.map Prod.snd = some 1 ∧
      (coerceColumns .enUS 1 (checkIns.arrangeRows [2, 1, 0]) [(0, .dateTime)]).toOption.map
        Prod.snd = some 2 := by
  decide

end SqlDialects
