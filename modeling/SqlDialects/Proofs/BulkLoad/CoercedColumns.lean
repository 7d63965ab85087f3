import SqlDialects.Proofs.BulkLoad.Coercion
import SqlDialects.Proofs.DataSet

/-!
# What the reading of dates does to a dataset

The targets name columns in any order, some of them twice, some beyond the last column and some for
kinds that are no dates.  What comes out is told column by column.

* **The columns that are read** are those of text that some target names for a date or time kind;
  the first such target decides (`coercedKind?_eq_some_iff`).
* **Their cells** become what `BecomesCell` says: a date or a time, null where there is none to be
  read, and what they were where they are no text.
* **The whole dataset** has the same rows and columns in the same order, its other columns are as
  they were, and nothing is left to be read (`coerceColumns_reads_targets`).
* **Its description** is another matter.  A column that is read keeps its name and whether it may
  be null, but not the wish to keep its text, and the primary key loses its name
  (`coerceColumns_keepsDescription_iff`).

Every dataset that the operations make is rectangular, and that is all that is used of it.
-/

set_option autoImplicit false

namespace SqlDialects

open Text

/-! ## Columns that are read -/

/-- **The first date or time kind among the targets of a column.** -/
def IsFirstTarget (targets : List (Nat × TypeKind)) (j : Nat) (kind : TypeKind) : Prop :=
  kind.isDateLike = true ∧ ∃ before after, targets = before ++ (j, kind) :: after ∧
    ∀ target ∈ before, target.1 = j → target.2.isDateLike = false

namespace DataSet

variable {data after : DataSet} {targets : List (Nat × TypeKind)} {j : Nat} {kind : TypeKind}

/-- A column of text is read as the first date or time kind among its targets. -/
def IsReadAs (data : DataSet) (targets : List (Nat × TypeKind)) (j : Nat) (kind : TypeKind) :
    Prop :=
  (∃ column, data.columns[j]? = some column ∧ column.isTextual = true) ∧
    IsFirstTarget targets j kind

theorem find?_target_eq_some_iff :
    (targets.find? fun target => target.1 == j && target.2.isDateLike).map Prod.snd = some kind ↔
      IsFirstTarget targets j kind := by
  simp only [Option.map_eq_some_iff, List.find?_eq_some_iff_append, Prod.exists, IsFirstTarget,
    Bool.and_eq_true, beq_iff_eq, Bool.not_eq_true', Bool.and_eq_false_iff, beq_eq_false_iff_ne]
  constructor
  · rintro ⟨_, _, ⟨⟨rfl, hkind⟩, before, after, htargets, hbefore⟩, rfl⟩
    exact ⟨hkind, before, after, htargets, fun target htarget heq =>
      (hbefore target htarget).resolve_left fun hne => hne heq⟩
  · rintro ⟨hkind, before, after, htargets, hbefore⟩
    exact ⟨j, kind, ⟨⟨rfl, hkind⟩, before, after, htargets, fun target htarget =>
      or_iff_not_imp_left.mpr fun heq => hbefore target htarget (not_not.mp heq)⟩, rfl⟩

theorem coercedKind?_eq_some_iff :
    data.coercedKind? targets j = some kind ↔ data.IsReadAs targets j kind := by
  have htext : (data.columns[j]?).any DataColumn.isTextual = true ↔
      ∃ column, data.columns[j]? = some column ∧ column.isTextual = true :=
    Option.any_eq_true ..
  rw [coercedKind?, IsReadAs, ← htext]
  split
  · next hany => rw [find?_target_eq_some_iff, and_iff_right hany]
  · next hany => simp [hany]

theorem coercedKind?_eq_none_iff :
    data.coercedKind? targets j = none ↔ ∀ kind, ¬data.IsReadAs targets j kind := by
  simp only [Option.eq_none_iff_forall_ne_some, ne_eq, coercedKind?_eq_some_iff]

end DataSet

/-! ## Cells -/

/-- **What a cell becomes** when its column is read as a kind. -/
inductive BecomesCell (reader : DateReader) (kind : TypeKind) : SqlValue → SqlValue → Prop
  /-- Values other than text stay, null among them. -/
  | kept {value : SqlValue} (hvalue : value.text? = none) : BecomesCell reader kind value value
  | blank {text : String} (hblank : isBlankText text = true) :
      BecomesCell reader kind (.text text) .null
  | time {text : String} {t : TimeOfDay} (hblank : isBlankText text = false)
      (hkind : kind = .timeSpan) (hread : DateReader.readTime text = some t) :
      BecomesCell reader kind (.text text) (.time t)
  | noTime {text : String} (hblank : isBlankText text = false) (hkind : kind = .timeSpan)
      (hread : DateReader.readTime text = none) : BecomesCell reader kind (.text text) .null
  | dateTime {text : String} {dt : DateTime} (hblank : isBlankText text = false)
      (hkind : kind ≠ .timeSpan) (hread : reader.readDateTime text = some dt) :
      BecomesCell reader kind (.text text) (.dateTime dt)
  | noDateTime {text : String} (hblank : isBlankText text = false) (hkind : kind ≠ .timeSpan)
      (hread : reader.readDateTime text = none) : BecomesCell reader kind (.text text) .null

theorem becomesCell_iff {reader : DateReader} {kind : TypeKind} {old new : SqlValue} :
    BecomesCell reader kind old new ↔ (coerceCell reader kind old).1 = new := by
  constructor
  · rintro (hvalue | hblank | ⟨hblank, hkind, hread⟩ | ⟨hblank, hkind, hread⟩ |
      ⟨hblank, hkind, hread⟩ | ⟨hblank, hkind, hread⟩)
    · cases old with
      | text text => cases hvalue
      | _ => rfl
    · simp [coerceCell, hblank]
    · simp [coerceCell, readAs, hblank, hkind, hread]
    · simp [coerceCell, readAs, hblank, hkind, hread]
    · simp [coerceCell, readAs, hblank, hkind, hread]
    · simp [coerceCell, readAs, hblank, hkind, hread]
  · rintro rfl
    cases old with
    | text text =>
      rw [coerceCell]
      cases hblank : isBlankText text with
      | true => exact .blank hblank
      | false =>
        by_cases hkind : kind = .timeSpan
        · cases hread : DateReader.readTime text with
          | none => simpa [readAs, hkind, hread] using BecomesCell.noTime hblank hkind hread
          | some t => simpa [readAs, hkind, hread] using BecomesCell.time hblank hkind hread
        · cases hread : reader.readDateTime text with
          | none => simpa [readAs, hkind, hread] using BecomesCell.noDateTime hblank hkind hread
          | some dt => simpa [readAs, hkind, hread] using BecomesCell.dateTime hblank hkind hread
    | _ => exact .kept rfl

/-! ## The whole dataset -/

namespace DataSet

variable {data after : DataSet} {targets : List (Nat × TypeKind)} {culture : Culture}
  {sampleSize : Nat}

/-- **What has become of a column.** -/
structure ReadsColumn (data after : DataSet) (targets : List (Nat × TypeKind)) (culture : Culture)
    (sampleSize j : Nat) (old new : DataColumn) : Prop where
  name : new.name = old.name
  /-- It has become a column of another kind just when it is read as that. -/
  kind_iff : ∀ kind, (new.kind ≠ old.kind ∧ new.kind = .typed kind) ↔ data.IsReadAs targets j kind
  /-- If it is read, then all of it by the order of its own first texts. -/
  cells : ∀ kind, data.IsReadAs targets j kind →
    List.Forall₂ (BecomesCell (data.readerOf culture sampleSize j) kind) (data.columnValues j)
      (after.columnValues j)
  /-- If it is not read, then it is as it was. -/
  unread : (∀ kind, ¬data.IsReadAs targets j kind) →
    new = old ∧ after.columnValues j = data.columnValues j

theorem IsCoerced.readsColumn
    (h : data.IsCoerced after culture sampleSize (data.coercedKind? targets)) {j : Nat}
    {old new : DataColumn} (hold : data.columns[j]? = some old)
    (hnew : after.columns[j]? = some new) :
    data.ReadsColumn after targets culture sampleSize j old new := by
  obtain rfl := h.eq_readAs hold hnew
  refine ⟨old.name_readAs _, fun kind => ?_, fun kind hread => ?_, fun hunread => ?_⟩
  · rw [← coercedKind?_eq_some_iff]
    cases hkind : data.coercedKind? targets j with
    | none => simp
    | some other =>
      obtain ⟨⟨column, hcolumn, htext⟩, -⟩ := coercedKind?_eq_some_iff.mp hkind
      obtain rfl := Option.some.inj (hold.symm.trans hcolumn)
      have hne : ValueKind.typed other ≠ old.kind := by
        rw [eq_of_beq htext]
        exact ValueKind.noConfusion
      simp [DataColumn.readAs, hne]
  · rw [h.columnValues_eq, coercedKind?_eq_some_iff.mpr hread, List.forall₂_map_right_iff,
      List.forall₂_same]
    exact fun value _ => becomesCell_iff.mpr rfl
  · rw [← coercedKind?_eq_none_iff] at hunread
    exact ⟨by rw [hunread, DataColumn.readAs_none], h.columnValues_of_none hunread⟩

/-- Nothing is left to be read. -/
theorem IsCoerced.coercedKind?_after
    (h : data.IsCoerced after culture sampleSize (data.coercedKind? targets)) :
    after.coercedKind? targets = fun _ => none := by
  funext j
  rw [h.coercedKind?_eq]
  cases data.coercedKind? targets j <;> rfl

/-- What has been read settles what comes out. -/
theorem IsCoerced.unique {kinds : Nat → Option TypeKind} {other : DataSet}
    (h : data.IsCoerced after culture sampleSize kinds)
    (hother : data.IsCoerced other culture sampleSize kinds) : after = other := by
  cases after
  cases other
  rw [DataSet.mk.injEq]
  exact ⟨h.name.trans hother.name.symm, h.columns.trans hother.columns.symm,
    h.rows.trans hother.rows.symm, h.primaryKey.trans hother.primaryKey.symm⟩

end DataSet

/-- **Reading the same targets again** finds nothing left to be read. -/
theorem coerceColumns_again {data after : DataSet} {targets : List (Nat × TypeKind)}
    {culture : Culture} {sampleSize : Nat} (hafter : after.IsRectangular)
    (h : data.IsCoerced after culture sampleSize (data.coercedKind? targets)) :
    coerceColumns culture sampleSize after targets = .ok (after, 0) := by
  obtain ⟨again, hrun, hagain⟩ := coerceColumns_isCoerced hafter culture sampleSize targets
  rw [h.coercedKind?_after] at hagain
  obtain rfl := hagain.unique (after.isCoerced_none culture sampleSize)
  rw [hrun, again.nulledTexts_self]

/-- **Dates are read as the targets say.** -/
theorem coerceColumns_reads_targets {data : DataSet} (hdata : data.Built)
    (targets : List (Nat × TypeKind)) (culture : Culture) (sampleSize : Nat) :
    ∃ after, coerceColumns culture sampleSize data targets = .ok (after, data.nulledTexts after) ∧
      after.IsRectangular ∧ after.rows.length = data.rows.length ∧
      after.columns.length = data.columns.length ∧
      (∀ j old new, data.columns[j]? = some old → after.columns[j]? = some new →
        data.ReadsColumn after targets culture sampleSize j old new) ∧
      coerceColumns culture sampleSize after targets = .ok (after, 0) := by
  obtain ⟨after, hrun, hcoerced⟩ :=
    coerceColumns_isCoerced hdata.isRectangular culture sampleSize targets
  have hafter := hcoerced.isRectangular hdata.isRectangular
  exact ⟨after, hrun, hafter, hcoerced.length_rows, hcoerced.length_columns,
    fun _ _ _ hold hnew => hcoerced.readsColumn hold hnew, coerceColumns_again hafter hcoerced⟩

/-- Check-ins, with a text that is no date in the column of days. -/
def checkIns : DataSet where
  name := "checkins"
  columns := [{ name := "day" }, { name := "at", nullable := false },
    { name := "nr", kind := .typed .int32 }]
  rows := [[.text "25/12/2020", .text "13:45:10", .int32 1],
    [.text "03/04/2020", .text " ", .int32 2], [.text "soon", .null, .int32 3]]
  primaryKey := ["nr"]

/-- Targets out of order, one of them for a column of numbers, one for no column, one for no date
and one for a column that has been read before. -/
def checkInTargets : List (Nat × TypeKind) :=
  [(2, .dateTime), (9, .dateTime), (0, .int32), (1, .timeSpan), (0, .dateTime), (0, .timeSpan)]

theorem built_checkIns : checkIns.Built :=
  DataSet.built_iff_isRectangular.mpr (by decide)

/-- The column of days is read day first, against the culture, and loses one text. -/
theorem coerceColumns_reads_checkIns :
    checkIns.Built ∧ ∃ after,
      coerceColumns .enUS 500 checkIns checkInTargets = .ok (after, 1) ∧
      after.columns.map DataColumn.kind = [.typed .dateTime, .typed .timeSpan, .typed .int32] ∧
      coerceColumns .enUS 500 after checkInTargets = .ok (after, 0) := by
  obtain ⟨after, hrun, -, -, -, -, hagain⟩ :=
    coerceColumns_reads_targets built_checkIns checkInTargets .enUS 500
  have heval : (coerceColumns .enUS 500 checkIns checkInTargets).toOption.map
      (fun result => (result.1.columns.map DataColumn.kind, result.2)) =
        some ([.typed .dateTime, .typed .timeSpan, .typed .int32], 1) := by
    decide
  rw [hrun] at heval
  obtain ⟨hkinds, hlost⟩ := Prod.mk.inj (Option.some.inj heval)
  exact ⟨built_checkIns, after, hlost ▸ hrun, hkinds, hagain⟩

/-! ## The description of a dataset -/

namespace DataSet

variable {data after : DataSet} {targets : List (Nat × TypeKind)} {culture : Culture}
  {sampleSize : Nat}

/-- **The layout stays** when columns are read: the names, the sizes, what may be null, and every
column that is not read. -/
structure KeepsLayout (data after : DataSet) (targets : List (Nat × TypeKind)) : Prop where
  name : after.name = data.name
  rows : after.rows.length = data.rows.length
  width : after.columns.length = data.columns.length
  columns : ∀ (j : Nat) (old new : DataColumn),
    data.columns[j]? = some old → after.columns[j]? = some new →
    new.name = old.name ∧ new.nullable = old.nullable
  unread : ∀ j, (∀ kind, ¬data.IsReadAs targets j kind) →
    after.columns[j]? = data.columns[j]? ∧ after.columnValues j = data.columnValues j

/-- **The description stays** when columns are read: nothing but their kinds and their cells has
changed. -/
structure KeepsDescription (data after : DataSet) (targets : List (Nat × TypeKind)) : Prop
    extends KeepsLayout data after targets where
  primaryKey : after.primaryKey = data.primaryKey
  keepsText : ∀ (j : Nat) (old new : DataColumn),
    data.columns[j]? = some old → after.columns[j]? = some new → new.keepsText = old.keepsText

theorem IsCoerced.keepsLayout
    (h : data.IsCoerced after culture sampleSize (data.coercedKind? targets)) :
    data.KeepsLayout after targets := by
  refine ⟨h.name, h.length_rows, h.length_columns, fun j old new hold hnew => ?_, fun j hj => ?_⟩
  · obtain rfl := h.eq_readAs hold hnew
    exact ⟨old.name_readAs _, old.nullable_readAs _⟩
  · rw [← coercedKind?_eq_none_iff] at hj
    refine ⟨?_, h.columnValues_of_none hj⟩
    rw [h.getElem?_columns, hj]
    exact Option.map_id'

/-- The primary key stays just when it names no column that has been read. -/
theorem IsCoerced.primaryKey_eq_iff {kinds : Nat → Option TypeKind}
    (h : data.IsCoerced after culture sampleSize kinds) :
    after.primaryKey = data.primaryKey ↔ ∀ j column, data.columns[j]? = some column →
      (kinds j).isSome = true → data.isPrimaryKey column.name = false := by
  rw [h.primaryKey, List.filter_eq_self]
  simp only [Bool.not_eq_true', ← Bool.not_eq_true, namesReadColumn_iff, isPrimaryKey,
    List.any_eq_true]
  grind

theorem IsCoerced.keepsText_iff {kinds : Nat → Option TypeKind}
    (h : data.IsCoerced after culture sampleSize kinds) :
    (∀ (j : Nat) (old new : DataColumn), data.columns[j]? = some old →
        after.columns[j]? = some new → new.keepsText = old.keepsText) ↔
      ∀ j column, data.columns[j]? = some column → (kinds j).isSome = true →
        column.keepsText = false := by
  have hkeeps : ∀ column : DataColumn, ∀ kind,
      (column.readAs kind).keepsText = column.keepsText ↔
        (kind.isSome = true → column.keepsText = false) := by
    rintro column (_ | kind)
    · simp
    · exact ⟨fun hkeeps _ => hkeeps.symm, fun hread => (hread rfl).symm⟩
  constructor
  · intro hall j column hcolumn hkind
    exact (hkeeps column _).mp
      (hall j column _ hcolumn (by rw [h.getElem?_columns, hcolumn, Option.map_some])) hkind
  · intro hread j old new hold hnew
    obtain rfl := h.eq_readAs hold hnew
    exact (hkeeps old _).mpr (hread j old hold)

end DataSet

/-- **The reading of dates leaves the rest of the description alone** just when no column that is
read was to keep its text or is named by the primary key.  The layout stays in any case. -/
theorem coerceColumns_keepsDescription_iff {data : DataSet} (hdata : data.Built)
    (targets : List (Nat × TypeKind)) (culture : Culture) (sampleSize : Nat) :
    ∃ after lost, coerceColumns culture sampleSize data targets = .ok (after, lost) ∧
      data.KeepsLayout after targets ∧
      (data.KeepsDescription after targets ↔
        ∀ j column kind, data.columns[j]? = some column → data.IsReadAs targets j kind →
          column.keepsText = false ∧ data.isPrimaryKey column.name = false) := by
  obtain ⟨after, hrun, hcoerced⟩ :=
    coerceColumns_isCoerced hdata.isRectangular culture sampleSize targets
  have hread : ∀ j, (data.coercedKind? targets j).isSome = true ↔
      ∃ kind, data.IsReadAs targets j kind := fun j => by
    simp only [Option.isSome_iff_exists, DataSet.coercedKind?_eq_some_iff]
  refine ⟨after, _, hrun, hcoerced.keepsLayout, ?_⟩
  constructor
  · intro hkeeps j column kind hcolumn hkind
    have htarget := (hread j).mpr ⟨kind, hkind⟩
    exact ⟨hcoerced.keepsText_iff.mp hkeeps.keepsText j column hcolumn htarget,
      hcoerced.primaryKey_eq_iff.mp hkeeps.primaryKey j column hcolumn htarget⟩
  · intro hall
    refine ⟨hcoerced.keepsLayout, hcoerced.primaryKey_eq_iff.mpr fun j column hcolumn hj => ?_,
      hcoerced.keepsText_iff.mpr fun j column hcolumn hj => ?_⟩
    · obtain ⟨kind, hkind⟩ := (hread j).mp hj
      exact (hall j column kind hcolumn hkind).2
    · obtain ⟨kind, hkind⟩ := (hread j).mp hj
      exact (hall j column kind hcolumn hkind).1

/-- The primary key of the check-ins is a column that is not read. -/
theorem coerceColumns_keepsDescription_checkIns :
    checkIns.Built ∧ ∃ after lost,
      coerceColumns .enUS 500 checkIns checkInTargets = .ok (after, lost) ∧
      checkIns.KeepsDescription after checkInTargets := by
  obtain ⟨after, lost, hrun, -, hkeeps⟩ :=
    coerceColumns_keepsDescription_iff built_checkIns checkInTargets .enUS 500
  have htexts : ∀ column ∈ checkIns.columns, column.isTextual = true →
      column.keepsText = false ∧ checkIns.isPrimaryKey column.name = false := by decide
  refine ⟨built_checkIns, after, lost, hrun, hkeeps.mpr fun j column kind hcolumn hread => ?_⟩
  obtain ⟨⟨other, hother, htext⟩, -⟩ := hread
  obtain rfl := Option.some.inj (hcolumn.symm.trans hother)
  exact htexts column (List.mem_of_getElem? hcolumn) htext

/-- A column of days that is the primary key. -/
def keyedDays : DataSet where
  name := "in"
  columns := [{ name := "d" }]
  rows := [[.text "2001-02-03"]]
  primaryKey := ["d"]

/-- The day is read, and the dataset has no primary key any more. -/
theorem coerceColumns_loses_primaryKey :
    keyedDays.Built ∧ ∃ after,
      coerceColumns .enUS 500 keyedDays [(0, .dateTime)] = .ok (after, 0) ∧
      after.primaryKey = [] ∧ ¬keyedDays.KeepsDescription after [(0, .dateTime)] := by
  have hdata : keyedDays.IsRectangular := by decide
  obtain ⟨after, hrun, -⟩ := coerceColumns_isCoerced hdata .enUS 500 [(0, .dateTime)]
  have heval : (coerceColumns .enUS 500 keyedDays [(0, .dateTime)]).toOption.map
      (fun result => (result.1.primaryKey, result.2)) = some ([], 0) := by
    decide
  rw [hrun] at heval
  obtain ⟨hkey, hlost⟩ := Prod.mk.inj (Option.some.inj heval)
  refine ⟨DataSet.built_iff_isRectangular.mpr hdata, after, hlost ▸ hrun, hkey, fun hkeeps => ?_⟩
  exact absurd (hkeeps.primaryKey.symm.trans hkey) (by decide)

end SqlDialects
