import SqlDialects.Engine.Script
import SqlDialects.Proofs.BulkLoad.Coercion
import SqlDialects.Proofs.BulkLoad.Upload
import SqlDialects.Proofs.Dialect.Parameter
import SqlDialects.Proofs.Except
import SqlDialects.Proofs.List

/-!
# Every value goes to its own column

What is handed to the engine is put together from several lists, each of which follows the pairs of
the mapping: the names of the columns, their names between quotes, the parameters, and the cells of
each row, which come from a dataset whose columns have been taken out and put back meanwhile.

* **`BulkSession.Carries`** — what stands at the place of a pair, in any of the lists, belongs to
  the pair.
* **`rowsFor_carries`** — the lists that are put together do so.
* **`upload_carries`** — whatever an upload hands over does so, and nothing is begun or handed over
  if the columns cannot be mapped.
-/

set_option autoImplicit false

namespace SqlDialects

open Text

/-! ## Values of parameters -/

/-- A command gives a parameter a value, and nothing else to any parameter of that name, whatever
its case. -/
def Command.Binds (command : Command) (parameter : String) (value : SqlValue) : Prop :=
  (parameter, value) ∈ command.parameters ∧
    ∀ bound ∈ command.parameters, sameName bound.1 parameter = true → bound = (parameter, value)

/-- Where parameters differ, the cells of a row are bound in order. -/
theorem BulkInsert.rowCommand_binds {b : BulkInsert} (hdistinct : DistinctNames b.parameters)
    {row : List SqlValue} {k : Nat} {parameter : String} {value : SqlValue}
    (hparameter : b.parameters[k]? = some parameter) (hvalue : row[k]? = some value) :
    (b.rowCommand row).Binds parameter value := by
  refine ⟨List.mem_of_getElem? (List.getElem?_zip_eq_some.mpr ⟨hparameter, hvalue⟩), ?_⟩
  intro bound hbound hsame
  obtain ⟨j, hj⟩ := List.getElem?_of_mem hbound
  obtain ⟨hname, hcell⟩ := List.getElem?_zip_eq_some.mp hj
  obtain rfl := hdistinct.eq_of_sameName hname hparameter hsame
  rw [hname] at hparameter
  rw [hcell] at hvalue
  exact Prod.ext (Option.some.inj hparameter) (Option.some.inj hvalue)

namespace BulkSession

variable {s : BulkSession} {data : DataSet} {m : ColumnMapping}

/-! ## Columns that a mapping leads to -/

/-- **The mapping of a dataset** to the columns of the table, which are known. -/
def Maps (s : BulkSession) (data : DataSet) (m : ColumnMapping) : Prop :=
  s.columns.isSome ∧ s.map (data.columns.map DataColumn.name) = .ok m

/-- Every pair of the mapping has a column of the input and one of the table. -/
theorem Maps.matches (h : s.Maps data m) :
    m.Matches (data.columns.map DataColumn.name) (s.knownColumns.map Column.name) :=
  mapColumns_matches h.2

theorem Maps.source_lt (h : s.Maps data m) {pair : Nat × Nat} (hpair : pair ∈ m.pairs) :
    pair.1 < data.columns.length := by
  obtain ⟨name, _, hname, -, -⟩ := h.matches.sameNames pair hpair
  simpa using (List.getElem?_eq_some_iff.mp hname).1

theorem Maps.exists_destination (h : s.Maps data m) {pair : Nat × Nat} (hpair : pair ∈ m.pairs) :
    ∃ column, s.knownColumns[pair.2]? = some column := by
  obtain ⟨_, name, -, hname, -⟩ := h.matches.sameNames pair hpair
  have hlt : pair.2 < s.knownColumns.length := by
    simpa using (List.getElem?_eq_some_iff.mp hname).1
  exact ⟨_, List.getElem?_eq_getElem hlt⟩

/-- The columns are listed in the order of the pairs. -/
theorem Maps.destinations (h : s.Maps data m) :
    List.Forall₂ (fun pair column => s.knownColumns[pair.2]? = some column) m.pairs
      (s.destinations m) :=
  forall₂_filterMap fun _ hpair => h.exists_destination hpair

theorem mem_targets {i : Nat} {kind : TypeKind} :
    (i, kind) ∈ s.targets m ↔ ∃ j column, (i, j) ∈ m.pairs ∧ s.knownColumns[j]? = some column ∧
      column.type.kind? = some kind := by
  rw [targets, List.mem_filterMap]
  constructor
  · rintro ⟨⟨source, j⟩, hpair, htarget⟩
    obtain ⟨column, hcolumn, htarget⟩ := Option.bind_eq_some_iff.mp htarget
    obtain ⟨kind, hkind, htarget⟩ := Option.bind_eq_some_iff.mp htarget
    obtain ⟨rfl, rfl⟩ := Prod.mk.inj (Option.some.inj htarget)
    exact ⟨j, column, hpair, hcolumn, hkind⟩
  · rintro ⟨j, column, hpair, hcolumn, hkind⟩
    refine ⟨(i, j), hpair, Option.bind_eq_some_iff.mpr ⟨column, hcolumn, ?_⟩⟩
    exact Option.bind_eq_some_iff.mpr ⟨kind, hkind, rfl⟩

/-- No column of the input has two kinds to be read as. -/
theorem Maps.targets_nodup (h : s.Maps data m) : ((s.targets m).map Prod.fst).Nodup := by
  rw [targets]
  refine List.pairwise_map.mpr (List.Pairwise.filterMap _ ?_ h.matches.increasing)
  intro p q hlt a ha b hb
  obtain ⟨_, -, ha⟩ := Option.bind_eq_some_iff.mp ha
  obtain ⟨_, -, ha⟩ := Option.bind_eq_some_iff.mp ha
  obtain ⟨_, -, hb⟩ := Option.bind_eq_some_iff.mp hb
  obtain ⟨_, -, hb⟩ := Option.bind_eq_some_iff.mp hb
  obtain rfl := Option.some.inj ha
  obtain rfl := Option.some.inj hb
  exact Nat.ne_of_lt hlt

theorem lookup_eq_some_of_mem {β : Type} {l : List (Nat × β)} (h : (l.map Prod.fst).Nodup)
    {key : Nat} {b : β} (hmem : (key, b) ∈ l) : l.lookup key = some b := by
  obtain ⟨front, back, rfl⟩ := List.append_of_mem hmem
  rw [List.map_append, List.nodup_append] at h
  refine List.lookup_eq_some_iff.mpr ⟨front, back, rfl, fun p hp => ?_⟩
  rw [bne_iff_ne]
  exact (h.2.2 p.1 (List.mem_map_of_mem hp) key List.mem_cons_self).symm

/-- The kind that a column of the input is read as is that of the column it goes to. -/
theorem Maps.lookup_targets (h : s.Maps data m) {i j : Nat} (hpair : (i, j) ∈ m.pairs)
    {column : Column} (hcolumn : s.knownColumns[j]? = some column) :
    (s.targets m).lookup i = column.type.kind? := by
  cases hkind : column.type.kind? with
  | some kind =>
    exact lookup_eq_some_of_mem h.targets_nodup (mem_targets.mpr ⟨j, column, hpair, hcolumn, hkind⟩)
  | none =>
    refine List.lookup_eq_none_iff.mpr fun ⟨source, kind⟩ htarget => ?_
    rw [bne_iff_ne]
    rintro rfl
    obtain ⟨j', other, hother, hcolumn', hkind'⟩ := mem_targets.mp htarget
    have hsources : (m.pairs.map Prod.fst).Nodup :=
      List.pairwise_map.mpr (h.matches.increasing.imp Nat.ne_of_lt)
    obtain ⟨-, rfl⟩ := Prod.mk.inj (List.inj_on_of_nodup_map hsources hpair hother rfl)
    rw [hcolumn] at hcolumn'
    obtain rfl := Option.some.inj hcolumn'
    rw [hkind] at hkind'
    contradiction

/-! ## The lists -/

/-- **What stands at the place of a pair belongs to the pair.**  For the rows of a dataset and a
mapping of its columns, `b` has the rows in their order; its columns, parameters and cells follow
the pairs of the mapping, and so do the names between quotes, `wrapped`, which the statement
lists. -/
structure Carries (s : BulkSession) (data : DataSet) (m : ColumnMapping) (b : BulkInsert)
    (wrapped : List String) : Prop where
  columns_length : b.columns.length = m.pairs.length
  wrapped_length : wrapped.length = m.pairs.length
  parameters_length : b.parameters.length = m.pairs.length
  rows_length : b.rows.length = data.rows.length
  row_length : ∀ row ∈ b.rows, row.length = m.pairs.length
  placed : ∀ k i j : Nat, m.pairs[k]? = some (i, j) →
    ∃ column : Column, s.knownColumns[j]? = some column ∧ b.columns[k]? = some column.name ∧
      (∃ quoted, wrapped[k]? = some quoted ∧ column.wrappedName = .ok quoted) ∧
      ∀ (r : Nat) (row : List SqlValue), data.rows[r]? = some row →
        ∃ (loaded : List SqlValue) (value : SqlValue), b.rows[r]? = some loaded ∧
          row[i]? = some value ∧
          loaded[k]? = some (data.valueFor s.settings.culture s.settings.sampleSize i
            column.type.kind? value)
  qualified : s.table.qualifiedName = .ok b.table
  statement : b.insertSql = "INSERT INTO " ++ b.table ++ "(" ++ commaList wrapped ++
    ") VALUES (" ++ commaList b.parameters ++ ")"
  /-- Where the rows are inserted one by one, each command is for its row, and gives the parameter
  at a place the cell at that place. -/
  inserted : ∀ c, (insertRows c b b.rows).run.Ensures fun outcome trace =>
    Executes c (b.rows.map b.rowCommand) (outcome.map fun _ => ()) trace
  bound : ∀ row ∈ b.rows, ∀ (k : Nat) (parameter : String) (value : SqlValue),
    b.parameters[k]? = some parameter → row[k]? = some value →
      (b.rowCommand row).Binds parameter value

/-- **The lists that are put together** belong to the pairs of the mapping. -/
theorem rowsFor_carries (hdata : data.IsRectangular) (hmaps : s.Maps data m) {b : BulkInsert}
    {nulled : Nat} (h : s.rowsFor m data = .ok (b, nulled)) :
    ∃ wrapped, s.Carries data m b wrapped := by
  obtain ⟨read, lost, hread, hrows⟩ :=
    coerceColumns_rows hdata s.settings.culture s.settings.sampleSize hmaps.targets_nodup
  -- the rows of the dataset with their dates read
  let readRow (row : List SqlValue) : List SqlValue := row.mapIdx fun i value =>
    data.valueFor s.settings.culture s.settings.sampleSize i ((s.targets m).lookup i) value
  rw [rowsFor, hread] at h
  obtain ⟨_, hok, h⟩ := exists_of_bind_eq_ok h
  obtain rfl := Except.ok.inj hok
  obtain ⟨table, htable, h⟩ := exists_of_bind_eq_ok h
  obtain ⟨wrapped, hwrapped, h⟩ := exists_of_bind_eq_ok h
  obtain ⟨rfl, rfl⟩ := Prod.mk.inj (Except.ok.inj h)
  have hdestinations := hmaps.destinations
  have hnames := forall₂_of_mapM_eq_ok hwrapped
  have hlength : (s.destinations m).length = m.pairs.length := hdestinations.length_eq.symm
  refine ⟨wrapped, ?_, ?_, ?_, ?_, ?_, ?_, htable, rfl, ?_, ?_⟩
  · rw [List.length_map, hlength]
  · rw [← hnames.length_eq, hlength]
  · rw [QueryStyle.length_parametersFor, List.length_map, hlength]
  · simp [hrows]
  · intro row hrow
    obtain ⟨_, -, rfl⟩ := List.mem_map.mp hrow
    exact List.length_map _
  · intro k i j hpair
    obtain ⟨column, hat, hcolumn⟩ := exists_getElem?_of_forall₂ hdestinations hpair
    have hmem := List.mem_of_getElem? hpair
    refine ⟨column, hcolumn, ?_, exists_getElem?_of_forall₂ hnames hat, fun r row hrow => ?_⟩
    · rw [List.getElem?_map, hat]
      rfl
    · have hlt : i < row.length := by
        rw [hdata row (List.mem_of_getElem? hrow)]
        exact hmaps.source_lt hmem
      refine ⟨m.pairs.map fun pair => (readRow row).getD pair.1 .null, row[i], ?_,
        List.getElem?_eq_getElem hlt, ?_⟩
      · rw [List.getElem?_map, hrows, List.getElem?_map, hrow]
        rfl
      · rw [List.getElem?_map, hpair, ← hmaps.lookup_targets hmem hcolumn]
        simp [readRow, List.getD_eq_getElem?_getD, List.getElem?_eq_getElem hlt]
  · exact fun c => insertRows_executes c _ _
  · intro row _ k parameter value hparameter hvalue
    exact BulkInsert.rowCommand_binds (QueryStyle.parametersFor_distinct _ _) hparameter hvalue

/-- The table and the columns that the mapping leads to have names that can be written. -/
def CanName (s : BulkSession) (m : ColumnMapping) : Prop :=
  (∃ name, s.table.qualifiedName = .ok name) ∧
    ∀ column ∈ s.destinations m, ∃ quoted, column.wrappedName = .ok quoted

/-- Nothing but names keeps the lists from being put together. -/
theorem exists_rowsFor_eq_ok (hdata : data.IsRectangular) (hmaps : s.Maps data m)
    (hnames : s.CanName m) : ∃ b nulled, s.rowsFor m data = .ok (b, nulled) := by
  obtain ⟨⟨table, htable⟩, hquoted⟩ := hnames
  obtain ⟨read, lost, hread, -⟩ :=
    coerceColumns_rows hdata s.settings.culture s.settings.sampleSize hmaps.targets_nodup
  obtain ⟨wrapped, hwrapped⟩ := exists_mapM_eq_ok hquoted
  rw [rowsFor, hread]
  show ∃ b nulled, (s.table.qualifiedName >>= fun table =>
    (s.destinations m).mapM Column.wrappedName >>= fun wrapped => _) = _
  rw [htable, hwrapped]
  exact ⟨_, _, rfl⟩

end BulkSession

/-! ## Uploads -/

/-- The rows that an exchange hands over, and on which connection. -/
def handedOver? : Exchange → Option (Connection × BulkInsert)
  | ⟨.bulkInsert c b, _⟩ => some (c, b)
  | _ => none

/-- The rows that have been handed over, in order, whether or not they were taken. -/
def handedOver (trace : List Exchange) : List (Connection × BulkInsert) :=
  trace.filterMap handedOver?

namespace BulkSession

variable {s : BulkSession} {data : DataSet}

theorem Informs.columns_isSome {after : BulkSession} {trace : List Exchange}
    (h : s.Informs (.ok after) trace) : after.columns.isSome := by
  cases h with
  | known hcolumns => exact Option.isSome_of_eq_some hcolumns
  | told _ infos => rfl

theorem Informs.handedOver_eq_nil {outcome : Except SqlError BulkSession} {trace : List Exchange}
    (h : s.Informs outcome trace) : handedOver trace = [] := by
  cases h <;> rfl

theorem Informs.handedOver_append {outcome : Except SqlError BulkSession} {first : List Exchange}
    (h : s.Informs outcome first) (second : List Exchange) :
    handedOver (first ++ second) = handedOver second := by
  rw [handedOver, List.filterMap_append]
  exact congrArg (· ++ handedOver second) h.handedOver_eq_nil

theorem Explains.handedOver_eq_nil {b : BulkInsert} {fault e : SqlError} {search : List Exchange}
    (h : s.Explains b fault e search) : handedOver search = [] := by
  cases h <;> rfl

/-- The engine refuses to begin a transaction. -/
def IsRefused (s : BulkSession) (trace : List Exchange) : Prop :=
  ∃ e, ⟨.beginTransaction s.connection, Except.error e⟩ ∈ trace

/-- Rows are handed over once, unless a transaction is refused, which is an error. -/
theorem Inserts.handedOver_eq {b : BulkInsert} {outcome : Except SqlError Nat}
    {trace : List Exchange} (h : s.Inserts b outcome trace) :
    handedOver trace = [(s.connection, b)] ∨
      handedOver trace = [] ∧ s.IsRefused trace ∧ ∃ e, outcome = .error e := by
  cases h with
  | notBegun _ e => exact .inr ⟨rfl, ⟨e, List.mem_singleton_self _⟩, e, rfl⟩
  | committed _ _ | notCommitted _ _ _ | taken _ _ => exact .inl rfl
  | rolledBack _ _ _ hexplains | rejected _ _ hexplains =>
    exact .inl (congrArg (List.cons _) hexplains.handedOver_eq_nil)

/-- **What an upload hands over**, for the session as it is afterwards. -/
structure Delivers (s : BulkSession) (data : DataSet) (after : BulkSession)
    (trace : List Exchange) : Prop where
  /-- The session is the same, but for columns of the table that it has been told of. -/
  learnt : after = s ∨ ∃ infos,
    ⟨.describeColumns s.connection s.table.ref, Except.ok infos⟩ ∈ trace ∧
      after = { s with columns := some (infos.map (Column.ofInfo s.table)) }
  /-- Whatever is handed over carries every value to its own column. -/
  carried : ∀ sent ∈ handedOver trace, sent.1 = s.connection ∧
    ∃ m wrapped, after.Maps data m ∧ after.Carries data m sent.2 wrapped
  /-- Rows of which the columns can be mapped and named are handed over, and once only. -/
  sent : ∀ m, after.Maps data m → data.rows ≠ [] → after.CanName m →
    (handedOver trace).length = 1 ∨ handedOver trace = [] ∧ s.IsRefused trace
  /-- Nothing is begun or handed over if the columns cannot be mapped. -/
  unmapped : (∀ m, ¬ after.Maps data m) →
    handedOver trace = [] ∧ ∀ c answer, ⟨.beginTransaction c, answer⟩ ∉ trace

/-- No transaction is begun by work alone. -/
theorem beginTransaction_not_mem {c : Connection} {trace : List Exchange}
    (h : IsWorkOn c trace) (d : Connection) (answer : Except SqlError Unit) :
    ⟨.beginTransaction d, answer⟩ ∉ trace :=
  fun hmem => h _ hmem

/-- Where the columns of the table are not to be had, nothing is handed over. -/
theorem Informs.delivers {e : SqlError} {trace : List Exchange} (h : s.Informs (.error e) trace) :
    s.Delivers data s trace := by
  have hnone : ∀ m, ¬ s.Maps data m := by
    cases h with
    | refused hcolumns _ =>
      rintro m ⟨hsome, -⟩
      rw [hcolumns] at hsome
      contradiction
  refine ⟨.inl rfl, ?_, fun m hmaps => absurd hmaps (hnone m), fun _ => ?_⟩
  · rw [h.handedOver_eq_nil]
    exact List.forall_mem_nil _
  · exact ⟨h.handedOver_eq_nil, beginTransaction_not_mem h.isWorkOn⟩

/-- **What is loaded is delivered**, the columns of the table being known. -/
theorem Uploads.delivers (hdata : data.IsRectangular) (hcolumns : s.columns.isSome)
    {outcome : Except SqlError UploadStats} {trace : List Exchange}
    (h : s.Uploads data outcome trace) : s.Delivers data s trace := by
  cases h with
  | @notMapped e hmap =>
    have hnone : ∀ m, ¬ s.Maps data m := by
      rintro m ⟨-, hm⟩
      rw [hmap] at hm
      contradiction
    refine ⟨.inl rfl, List.forall_mem_nil _, fun m hmaps => absurd hmaps (hnone m), fun _ => ?_⟩
    exact ⟨rfl, fun _ _ => List.not_mem_nil⟩
  | @empty m hmap hrows =>
    refine ⟨.inl rfl, List.forall_mem_nil _, fun _ _ hne => absurd hrows hne, fun hnone => ?_⟩
    exact absurd ⟨hcolumns, hmap⟩ (hnone m)
  | @notReady m hmap hrows e hready =>
    refine ⟨.inl rfl, List.forall_mem_nil _, fun m' hmaps _ hnames => ?_, fun hnone => ?_⟩
    · obtain rfl : m = m' := Except.ok.inj (hmap.symm.trans hmaps.2)
      obtain ⟨b, nulled, hb⟩ := exists_rowsFor_eq_ok hdata hmaps hnames
      rw [hready] at hb
      contradiction
    · exact absurd ⟨hcolumns, hmap⟩ (hnone m)
  | @inserted m hmap hrows b nulled hready outcome _ hinserts =>
    have hmaps : s.Maps data m := ⟨hcolumns, hmap⟩
    obtain ⟨wrapped, hcarries⟩ := rowsFor_carries hdata hmaps hready
    refine ⟨.inl rfl, fun sent hsent => ?_, fun _ _ _ _ => ?_, fun hnone => absurd hmaps (hnone m)⟩
    · rcases hinserts.handedOver_eq with hover | ⟨hover, -⟩
      · rw [hover, List.mem_singleton] at hsent
        obtain rfl := hsent
        exact ⟨rfl, m, wrapped, hmaps, hcarries⟩
      · rw [hover] at hsent
        contradiction
    · refine hinserts.handedOver_eq.imp (fun hover => ?_) fun ⟨hnil, hrefused, _⟩ =>
        ⟨hnil, hrefused⟩
      rw [hover]
      rfl

/-- What is learnt before it leaves a delivery as it is. -/
theorem Delivers.afterInforms {after : BulkSession} {first second : List Exchange}
    (h : after.Delivers data after second) (hinforms : s.Informs (.ok after) first) :
    s.Delivers data after (first ++ second) := by
  have hover : handedOver (first ++ second) = handedOver second :=
    hinforms.handedOver_append second
  have hconnection : after.connection = s.connection := by
    cases hinforms <;> rfl
  refine ⟨?_, ?_, ?_, ?_⟩
  · cases hinforms with
    | known _ => exact .inl rfl
    | told _ infos => exact .inr ⟨infos, by simp, rfl⟩
  · rw [hover, ← hconnection]
    exact h.carried
  · intro m hmaps hrows hnames
    rw [hover]
    refine (h.sent m hmaps hrows hnames).imp_right fun ⟨hnil, e, he⟩ => ⟨hnil, e, ?_⟩
    rw [hconnection] at he
    exact List.mem_append_right _ he
  · intro hnone
    obtain ⟨hnil, hbegin⟩ := h.unmapped hnone
    rw [hover]
    refine ⟨hnil, fun c answer hmem => ?_⟩
    rcases List.mem_append.mp hmem with hmem | hmem
    · exact beginTransaction_not_mem hinforms.isWorkOn c answer hmem
    · exact hbegin c answer hmem

/-- **Every upload carries every value to its own column**, whatever the engine answers, and begins
and hands over nothing if the columns cannot be mapped. -/
theorem upload_carries (s : BulkSession) {data : DataSet} (hdata : data.IsRectangular) :
    (s.upload data).Ensures fun result trace => s.Delivers data result.2 trace := by
  refine (s.upload_ensures data).mono fun result trace hends => ?_
  rcases hends with ⟨e, rfl, hinforms⟩ | ⟨first, second, rfl, hinforms, huploads⟩
  · exact hinforms.delivers
  · exact (huploads.delivers hdata hinforms.columns_isSome).afterInforms hinforms

/-- Visits by their day, with a note. -/
def visits : DataSet where
  name := "visits"
  columns := [{ name := "day" }, { name := "NOTE" }]
  rows := [[.text "01/02/2007", .text "late"], [.text "13/02/2007", .null]]

/-- A session on a table of visits. -/
def visitsSession : BulkSession where
  table := ⟨⟨⟨.mssql, none, fun _ => false, default⟩, "shop"⟩, "visits", none, .table⟩
  connection := ⟨1, some "shop"⟩
  ownsConnection := true
  settings := {}

/-- An engine with that table, whose columns stand the other way round. -/
def visitsScript : Script where
  tables := [{ info := ⟨"visits", none, .table⟩
               columns := [{ name := "note", sqlType := "varchar(10)", nullable := true },
                           { name := "Day", sqlType := "date", nullable := true }] }]

/-- The visits are handed over once, each value with the parameter of its own column. -/
theorem upload_carries_visits :
    visits.IsRectangular ∧ ∃ b m wrapped,
      handedOver ((visitsSession.upload visits).run Script.engine visitsScript).2.1 =
        [(⟨1, some "shop"⟩, b)] ∧
      b.insertSql = "INSERT INTO [shop]..[visits]([Day],[note]) VALUES (@Day,@note)" ∧
      b.rows.map List.getLast? = [some (.text "late"), some .null] ∧
      ((visitsSession.upload visits).run Script.engine visitsScript).1.2.Carries visits m b
        wrapped := by
  have hdata : visits.IsRectangular := by simp [DataSet.IsRectangular, visits]
  have hover :
      (handedOver ((visitsSession.upload visits).run Script.engine visitsScript).2.1).map
          (fun sent => (sent.1, sent.2.insertSql, sent.2.rows.map List.getLast?)) =
        [(⟨1, some "shop"⟩, "INSERT INTO [shop]..[visits]([Day],[note]) VALUES (@Day,@note)",
          [some (.text "late"), some .null])] := by
    decide +kernel
  obtain ⟨⟨c, b⟩, hsent, hb⟩ := List.map_eq_singleton_iff.mp hover
  obtain ⟨rfl, hsql, hlast⟩ : c = _ ∧ b.insertSql = _ ∧ b.rows.map List.getLast? = _ := by
    simpa using hb
  have hdelivers := visitsSession.upload_carries hdata Script Script.engine visitsScript
  obtain ⟨-, m, wrapped, -, hcarries⟩ :=
    hdelivers.carried _ (hsent ▸ List.mem_singleton_self _)
  exact ⟨hdata, b, m, wrapped, hsent, hsql, hlast, hcarries⟩

end BulkSession

end SqlDialects
