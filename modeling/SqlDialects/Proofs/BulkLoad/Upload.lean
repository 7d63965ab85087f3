import SqlDialects.BulkLoad
import SqlDialects.CreateTable.Run
import SqlDialects.Proofs.Engine.Conduct

/-!
# The ways in which an upload can go

An upload asks for the columns of the table, maps those of the data to them, and hands over the
rows.  Each of these steps may fail, and the engine decides on most of them.  The relations below
list every way out with the outcome and the trace that it leaves, so what is to be said of uploads
can be read off them, case by case.

* **`BulkSession.Informs`** — the columns of the table become known.
* **`BulkSession.Inserts`** — rows are handed over, in a transaction if the connection is the
  session's own; **`BulkSession.Explains`** — what is said of rows that are rejected.
* **`BulkSession.Uploads`** — a dataset is loaded, the columns being known.
* **`Table.Loads`** — a dataset is loaded in a session of its own.

For each of them there is one lemma which says that the program goes in no other way.
-/

set_option autoImplicit false

namespace SqlDialects

namespace BulkSession

variable {s : BulkSession}

/-! ## Columns of the table -/

/-- The columns of the table become known: they are asked for once, and not if they are known
already. -/
inductive Informs (s : BulkSession) : Except SqlError BulkSession → List Exchange → Prop
  | known {columns : List Column} (h : s.columns = some columns) : Informs s (.ok s) []
  | told (h : s.columns = none) (infos : List ColumnInfo) :
      Informs s (.ok { s with columns := some (infos.map (Column.ofInfo s.table)) })
        [⟨.describeColumns s.connection s.table.ref, .ok infos⟩]
  | refused (h : s.columns = none) (e : SqlError) :
      Informs s (.error e) [⟨.describeColumns s.connection s.table.ref, .error e⟩]

theorem withColumns_ensures (s : BulkSession) : s.withColumns.run.Ensures s.Informs := by
  rw [withColumns]
  split
  · next columns hcolumns => exact .done (.known hcolumns)
  · next hcolumns =>
    refine .ask fun answer => ?_
    cases answer with
    | error e => exact .done (.refused hcolumns e)
    | ok infos => exact .done (.told hcolumns infos)

theorem Informs.isWorkOn {outcome : Except SqlError BulkSession} {trace : List Exchange}
    (h : s.Informs outcome trace) : IsWorkOn s.connection trace := by
  cases h with
  | known _ => exact isWorkOn_nil
  | told _ _ | refused _ _ => exact isWorkOn_singleton rfl

/-! ## Handing over rows -/

/-- What is said of rows that the engine has rejected, and what it is asked for that.  An engine
that was merely too slow is asked nothing. -/
inductive Explains (s : BulkSession) (b : BulkInsert) (fault : SqlError) :
    SqlError → List Exchange → Prop
  | tooSlow (h : s.table.database.server.isTimeout fault = true) : Explains s b fault fault []
  | found (h : s.table.database.server.isTimeout fault = false) (finding : String) :
      Explains s b fault (.bulkInsertFailed finding fault)
        [⟨.investigate s.connection b fault, .ok (some finding)⟩]
  | notFound (h : s.table.database.server.isTimeout fault = false) :
      Explains s b fault fault [⟨.investigate s.connection b fault, .ok none⟩]
  | notSearched (h : s.table.database.server.isTimeout fault = false) (diagnosis : SqlError) :
      Explains s b fault (.bulkDiagnosisFailed fault diagnosis)
        [⟨.investigate s.connection b fault, .error diagnosis⟩]

theorem Explains.isWorkOn {b : BulkInsert} {fault e : SqlError} {search : List Exchange}
    (h : s.Explains b fault e search) : IsWorkOn s.connection search := by
  cases h with
  | tooSlow _ => exact isWorkOn_nil
  | found _ _ | notFound _ | notSearched _ _ => exact isWorkOn_singleton rfl

theorem explain_ensures (s : BulkSession) (b : BulkInsert) (fault : SqlError) :
    (s.explain b fault).run.Ensures fun outcome trace =>
      ∃ e, outcome = .ok e ∧ s.Explains b fault e trace := by
  rw [explain]
  split
  · next hslow => exact .done ⟨_, rfl, .tooSlow hslow⟩
  · next hslow =>
    rw [Bool.not_eq_true] at hslow
    refine .ask fun answer => ?_
    cases answer with
    | error diagnosis => exact .done ⟨_, rfl, .notSearched hslow diagnosis⟩
    | ok finding =>
      cases finding with
      | none => exact .done ⟨_, rfl, .notFound hslow⟩
      | some finding => exact .done ⟨_, rfl, .found hslow finding⟩

/-- **Rows are handed over.**  On a connection of the session's own that is done in a transaction,
which is committed if the engine takes the rows and rolled back if it rejects them. -/
inductive Inserts (s : BulkSession) (b : BulkInsert) : Except SqlError Nat → List Exchange → Prop
  | notBegun (howns : s.ownsConnection = true) (e : SqlError) :
      Inserts s b (.error e) [⟨.beginTransaction s.connection, .error e⟩]
  | committed (howns : s.ownsConnection = true) (rows : Nat) :
      Inserts s b (.ok rows)
        [⟨.beginTransaction s.connection, .ok ()⟩, ⟨.bulkInsert s.connection b, .ok rows⟩,
          ⟨.commit s.connection, .ok ()⟩]
  | notCommitted (howns : s.ownsConnection = true) (rows : Nat) (e : SqlError) :
      Inserts s b (.error e)
        [⟨.beginTransaction s.connection, .ok ()⟩, ⟨.bulkInsert s.connection b, .ok rows⟩,
          ⟨.commit s.connection, .error e⟩]
  | rolledBack (howns : s.ownsConnection = true) (fault : SqlError)
      (undone : Except SqlError Unit) {e : SqlError} {search : List Exchange}
      (h : s.Explains b fault e search) :
      Inserts s b (.error e)
        (⟨.beginTransaction s.connection, .ok ()⟩ :: ⟨.bulkInsert s.connection b, .error fault⟩ ::
          ⟨.rollback s.connection, undone⟩ :: search)
  | taken (hborrows : s.ownsConnection = false) (rows : Nat) :
      Inserts s b (.ok rows) [⟨.bulkInsert s.connection b, .ok rows⟩]
  | rejected (hborrows : s.ownsConnection = false) (fault : SqlError) {e : SqlError}
      {search : List Exchange} (h : s.Explains b fault e search) :
      Inserts s b (.error e) (⟨.bulkInsert s.connection b, .error fault⟩ :: search)

theorem insertAll_ensures (s : BulkSession) (b : BulkInsert) :
    (s.insertAll b).run.Ensures (s.Inserts b) := by
  rw [insertAll]
  -- a connection of its own has a transaction, which ends either way
  split
  · next howns =>
    refine .ask fun begun => ?_
    cases begun with
    | error e => exact .done (.notBegun howns e)
    | ok =>
      refine .ask fun inserted => ?_
      cases inserted with
      | ok rows =>
        refine .ask fun committed => ?_
        cases committed with
        | ok => exact .done (.committed howns rows)
        | error e => exact .done (.notCommitted howns rows e)
      | error fault =>
        refine .ask fun undone => ?_
        show Program.Ensures ((s.explain b fault).run.andThen _) _
        refine .andThen (s.explain_ensures b fault) ?_
        rintro _ search ⟨e, rfl, hsearch⟩
        refine .done ?_
        rw [List.append_nil]
        exact .rolledBack howns fault undone hsearch
  · next hborrows =>
    rw [Bool.not_eq_true] at hborrows
    refine .ask fun inserted => ?_
    cases inserted with
    | ok rows => exact .done (.taken hborrows rows)
    | error fault =>
      show Program.Ensures ((s.explain b fault).run.andThen _) _
      refine .andThen (s.explain_ensures b fault) ?_
      rintro _ search ⟨e, rfl, hsearch⟩
      refine .done ?_
      rw [List.append_nil]
      exact .rejected hborrows fault hsearch

theorem Inserts.givenCommands_eq_nil {b : BulkInsert} {outcome : Except SqlError Nat}
    {trace : List Exchange} (h : s.Inserts b outcome trace) : givenCommands trace = [] := by
  cases h with
  | rolledBack _ _ _ hexplains | rejected _ _ hexplains => cases hexplains <;> rfl
  | _ => rfl

theorem Inserts.rows_answered {b : BulkInsert} {rows : Nat} {trace : List Exchange}
    (h : s.Inserts b (.ok rows) trace) : ⟨.bulkInsert s.connection b, Except.ok rows⟩ ∈ trace := by
  cases h <;> simp

/-! ## Uploading -/

/-- **A dataset is loaded**, the columns of the table being known.  Everything that can be settled
without the engine is settled before it is asked. -/
inductive Uploads (s : BulkSession) (data : DataSet) :
    Except SqlError UploadStats → List Exchange → Prop
  | notMapped {e : SqlError} (h : s.map (data.columns.map DataColumn.name) = .error e) :
      Uploads s data (.error e) []
  | empty {m : ColumnMapping} (hmap : s.map (data.columns.map DataColumn.name) = .ok m)
      (hrows : data.rows = []) : Uploads s data (.ok {}) []
  | notReady {m : ColumnMapping} (hmap : s.map (data.columns.map DataColumn.name) = .ok m)
      (hrows : data.rows ≠ []) {e : SqlError} (h : s.rowsFor m data = .error e) :
      Uploads s data (.error e) []
  | inserted {m : ColumnMapping} (hmap : s.map (data.columns.map DataColumn.name) = .ok m)
      (hrows : data.rows ≠ []) {b : BulkInsert} {nulled : Nat}
      (hready : s.rowsFor m data = .ok (b, nulled)) {outcome : Except SqlError Nat}
      {trace : List Exchange} (h : s.Inserts b outcome trace) :
      Uploads s data (outcome.map fun rows => { rows, nulled }) trace

theorem uploadMapped_ensures (s : BulkSession) (data : DataSet) :
    (s.uploadMapped data).run.Ensures (s.Uploads data) := by
  rw [uploadMapped]
  cases hmap : s.map (data.columns.map DataColumn.name) with
  | error e => exact .done (.notMapped hmap)
  | ok m =>
    show Program.Ensures (ExceptT.run (if data.rows.isEmpty then _ else _)) _
    split
    · next hempty => exact .done (.empty hmap (List.isEmpty_iff.mp hempty))
    · next hempty =>
      have hrows : data.rows ≠ [] := fun h => hempty (List.isEmpty_iff.mpr h)
      cases hready : s.rowsFor m data with
      | error e => exact .done (.notReady hmap hrows hready)
      | ok ready =>
        obtain ⟨b, nulled⟩ := ready
        show Program.Ensures
          (s.insertAll b >>= fun rows => (pure { rows, nulled } : Action UploadStats)).run _
        refine .bind (s.insertAll_ensures b) ?_ ?_
        · intro rows trace hinserts
          refine .done ?_
          rw [List.append_nil]
          exact .inserted hmap hrows hready hinserts
        · intro e trace hinserts
          exact .inserted hmap hrows hready hinserts

theorem Uploads.givenCommands_eq_nil {data : DataSet} {outcome : Except SqlError UploadStats}
    {trace : List Exchange} (h : s.Uploads data outcome trace) : givenCommands trace = [] := by
  cases h with
  | inserted _ _ _ hinserts => exact hinserts.givenCommands_eq_nil
  | _ => rfl

/-- An upload begins with what the session has to learn of the columns, and the session keeps what
it has learnt. -/
theorem upload_ensures (s : BulkSession) (data : DataSet) :
    (s.upload data).Ensures fun result trace =>
      (∃ e, result = (.error e, s) ∧ s.Informs (.error e) trace) ∨
        ∃ first second, trace = first ++ second ∧ s.Informs (.ok result.2) first ∧
          result.2.Uploads data result.1 second := by
  refine .andThen s.withColumns_ensures fun informed first hinforms => ?_
  cases informed with
  | error e =>
    refine .done (.inl ⟨e, rfl, ?_⟩)
    rwa [List.append_nil]
  | ok informed =>
    refine .andThen (informed.uploadMapped_ensures data) fun outcome second huploads => .done ?_
    rw [List.append_nil]
    exact .inr ⟨first, second, rfl, hinforms, huploads⟩

end BulkSession

/-! ## A session for one upload -/

/-- **A dataset is loaded in a session of its own**, whose connection is closed at the end. -/
inductive Table.Loads (t : Table) (data : DataSet) (culture : Culture) (timeout : UInt32) :
    Except SqlError Nat → List Exchange → Prop
  | notOpened (e : SqlError) :
      Loads t data culture timeout (.error e)
        [⟨.openConnection (some t.database.name), .error e⟩]
  | notDescribed (c : Connection) (e : SqlError) :
      Loads t data culture timeout (.error e)
        [⟨.openConnection (some t.database.name), .ok c⟩, ⟨.describeColumns c t.ref, .error e⟩,
          ⟨.close c, ()⟩]
  | uploaded (c : Connection) (infos : List ColumnInfo) {outcome : Except SqlError UploadStats}
      {trace : List Exchange}
      (h : BulkSession.Uploads
        ⟨t, c, true, { culture, timeout }, some (infos.map (Column.ofInfo t))⟩ data outcome trace) :
      Loads t data culture timeout (outcome.map UploadStats.rows)
        (⟨.openConnection (some t.database.name), .ok c⟩ :: ⟨.describeColumns c t.ref, .ok infos⟩ ::
          trace ++ [⟨.close c, ()⟩])

theorem Table.load_ensures (t : Table) (data : DataSet) (culture : Culture) (timeout : UInt32) :
    (t.load data culture timeout).run.Ensures (t.Loads data culture timeout) := by
  refine .ask fun opened => ?_
  cases opened with
  | error e => exact .done (.notOpened e)
  | ok c =>
    show Program.Ensures
      ((BulkSession.upload ⟨t, c, true, { culture, timeout }, none⟩ data).andThen _) _
    refine .andThen (BulkSession.upload_ensures _ data) ?_
    rintro ⟨outcome, after⟩ trace hends
    rcases hends with ⟨e, hresult, hinforms⟩ | ⟨first, second, rfl, hinforms, huploads⟩
    · obtain ⟨rfl, rfl⟩ := Prod.mk.inj hresult
      cases hinforms with
      | refused _ e => exact .ask fun _ => .done (.notDescribed c e)
    · cases hinforms with
      | known h => contradiction
      | told _ infos => exact .ask fun _ => .done (.uploaded c infos huploads)

/-- **Loading gives no command.** -/
theorem Table.Loads.givenCommands_eq_nil {t : Table} {data : DataSet} {culture : Culture}
    {timeout : UInt32} {outcome : Except SqlError Nat} {trace : List Exchange}
    (h : t.Loads data culture timeout outcome trace) : givenCommands trace = [] := by
  cases h with
  | notOpened e | notDescribed c e => rfl
  | uploaded c infos huploads =>
    simp [givenCommands_cons, command?, huploads.givenCommands_eq_nil]

/-- **The count of rows that have been loaded is the engine's**, if there are any to be loaded. -/
theorem Table.Loads.rows_answered {t : Table} {data : DataSet} {culture : Culture}
    {timeout : UInt32} {rows : Nat} {trace : List Exchange}
    (h : t.Loads data culture timeout (.ok rows) trace) (hrows : data.rows ≠ []) :
    ∃ c b, ⟨.bulkInsert c b, Except.ok rows⟩ ∈ trace := by
  generalize hloaded : Except.ok rows = loaded at h
  cases h with
  | notOpened e | notDescribed c e => contradiction
  | uploaded c infos huploads =>
    cases huploads with
    | notMapped _ | notReady _ _ _ => contradiction
    | empty _ hempty => exact absurd hempty hrows
    | @inserted _ _ _ b _ _ outcome _ hinserts =>
      cases outcome with
      | error e => contradiction
      | ok count =>
        obtain rfl : rows = count := Except.ok.inj hloaded
        refine ⟨c, b, List.mem_append_left _ ?_⟩
        exact List.mem_cons_of_mem _ (List.mem_cons_of_mem _ hinserts.rows_answered)

end SqlDialects
