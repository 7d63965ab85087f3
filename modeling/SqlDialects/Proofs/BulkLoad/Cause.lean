import SqlDialects.Engine.Sqlite
import SqlDialects.Proofs.CreateTable.Reporting

/-!
# The cause of a failed load

When the engine rejects rows, a good deal happens before the caller hears of it: the transaction is
rolled back, the engine is asked for the row at fault, and the creation of a table wraps the error
once more.  Each of these steps may fail in turn.  None of them hides the fault that the engine has
given for the rows.

* **`rejections`**, **`searches`** — the faults that rows were rejected with, and what the engine
  was asked afterwards, read off a trace.
* **`BulkSession.Explains`** says what becomes of a fault, given the search for the row;
  `Explains.adapterFault?_eq` — the fault of the engine behind it is still the same.
* **`failed_load_keeps_cause`** — so it is in every upload and in every creation of a table.
-/

set_option autoImplicit false

namespace SqlDialects

/-! ## Rejected rows in a trace -/

/-- The rows that an exchange rejects, on which connection, and the fault. -/
def rejection? : Exchange → Option (Connection × BulkInsert × SqlError)
  | ⟨.bulkInsert c b, Except.error fault⟩ => some (c, b, fault)
  | _ => none

/-- The rows that have been rejected, each with the fault. -/
def rejections (trace : List Exchange) : List (Connection × BulkInsert × SqlError) :=
  trace.filterMap rejection?

/-- The engine is asked for the row at fault. -/
def isSearch (x : Exchange) : Bool :=
  match x.1 with
  | .investigate _ _ _ => true
  | _ => false

/-- What the engine has been asked about rows at fault, with its answers. -/
def searches (trace : List Exchange) : List Exchange := trace.filter isSearch

theorem rejections_append (first second : List Exchange) :
    rejections (first ++ second) = rejections first ++ rejections second :=
  List.filterMap_append

theorem searches_append (first second : List Exchange) :
    searches (first ++ second) = searches first ++ searches second :=
  List.filter_append ..

/-- No rows are rejected, and none are looked for. -/
def RejectsNone (trace : List Exchange) : Prop := rejections trace = [] ∧ searches trace = []

/-- What rejects none leaves the rejections of the rest as they are. -/
theorem RejectsNone.append_left {first : List Exchange} (h : RejectsNone first)
    (second : List Exchange) :
    rejections (first ++ second) = rejections second ∧
      searches (first ++ second) = searches second := by
  rw [rejections_append, searches_append, h.1, h.2]
  exact ⟨List.nil_append _, List.nil_append _⟩

theorem RejectsNone.append_right {second : List Exchange} (h : RejectsNone second)
    (first : List Exchange) :
    rejections (first ++ second) = rejections first ∧
      searches (first ++ second) = searches first := by
  rw [rejections_append, searches_append, h.1, h.2]
  exact ⟨List.append_nil _, List.append_nil _⟩

theorem Executes.rejectsNone {c : Connection} {commands : List Command}
    {outcome : Except SqlError Unit} {trace : List Exchange}
    (h : Executes c commands outcome trace) : RejectsNone trace := by
  induction h with
  | nothing | failed _ _ _ => exact ⟨rfl, rfl⟩
  | passed _ _ _ ih => exact ih

theorem Database.RunsScript.rejectsNone {d : Database} {commands : List Command}
    {outcome : Except SqlError Unit} {trace : List Exchange}
    (h : d.RunsScript commands outcome trace) : RejectsNone trace := by
  cases h with
  | notOpened e => exact ⟨rfl, rfl⟩
  | @opened c _ trace hexecutes =>
    have hclose : RejectsNone [⟨.close c, ()⟩] := ⟨rfl, rfl⟩
    obtain ⟨hrejections, hsearches⟩ :=
      hclose.append_right (⟨.openConnection (some d.name), .ok c⟩ :: trace)
    exact ⟨hrejections.trans hexecutes.rejectsNone.1, hsearches.trans hexecutes.rejectsNone.2⟩

/-! ## What becomes of a fault -/

namespace BulkSession

variable {s : BulkSession} {b : BulkInsert} {fault e : SqlError}

/-- **The search for the row at fault keeps the fault of the engine**, whether it finds a row, finds
none or fails itself. -/
theorem Explains.adapterFault?_eq {search : List Exchange} (h : s.Explains b fault e search) :
    e.adapterFault? = fault.adapterFault? := by
  cases h <;> rfl

/-- The search leaves nothing else in the trace. -/
theorem Explains.searches_eq {search : List Exchange} (h : s.Explains b fault e search) :
    rejections search = [] ∧ searches search = search := by
  cases h <;> exact ⟨rfl, rfl⟩

theorem Informs.rejectsNone {outcome : Except SqlError BulkSession} {trace : List Exchange}
    (h : s.Informs outcome trace) : RejectsNone trace := by
  cases h <;> exact ⟨rfl, rfl⟩

/-- What is looked for decides what is said of rows on a table, not what else the session knows. -/
theorem Explains.of_sameTable {s' : BulkSession} {search : List Exchange}
    (h : s.Explains b fault e search) (htable : s'.table = s.table)
    (hconnection : s'.connection = s.connection) : s'.Explains b fault e search := by
  cases h with
  | tooSlow hslow => exact .tooSlow (htable ▸ hslow)
  | found hslow finding => exact hconnection ▸ .found (htable ▸ hslow) finding
  | notFound hslow => exact hconnection ▸ .notFound (htable ▸ hslow)
  | notSearched hslow diagnosis => exact hconnection ▸ .notSearched (htable ▸ hslow) diagnosis

/-- **Whatever was rejected is explained**: an outcome after a rejection is the error that becomes
of the fault in the search that followed. -/
def ExplainsRejections (s : BulkSession) {α : Type} (outcome : Except SqlError α)
    (trace : List Exchange) : Prop :=
  ∀ c b fault, (c, b, fault) ∈ rejections trace →
    ∃ e, outcome = .error e ∧ s.Explains b fault e (searches trace)

theorem Inserts.explainsRejections {outcome : Except SqlError Nat} {trace : List Exchange}
    (h : s.Inserts b outcome trace) : s.ExplainsRejections outcome trace := by
  intro c b' fault' hmem
  cases h with
  | notBegun _ _ | committed _ _ | notCommitted _ _ _ | taken _ _ => contradiction
  | @rolledBack _ fault undone e search hexplains | @rejected _ fault e search hexplains =>
    obtain ⟨hnone, hsearch⟩ := hexplains.searches_eq
    replace hmem : (c, b', fault') ∈ (s.connection, b, fault) :: rejections search := hmem
    rw [hnone, List.mem_singleton] at hmem
    obtain ⟨rfl, rfl, rfl⟩ : c = _ ∧ b' = _ ∧ fault' = _ := by simpa using hmem
    refine ⟨e, rfl, ?_⟩
    show s.Explains b' fault' e (searches search)
    rwa [hsearch]

theorem Uploads.explainsRejections {data : DataSet} {outcome : Except SqlError UploadStats}
    {trace : List Exchange} (h : s.Uploads data outcome trace) :
    s.ExplainsRejections outcome trace := by
  intro c b fault hmem
  cases h with
  | notMapped _ | empty _ _ | notReady _ _ _ => contradiction
  | inserted _ _ _ hinserts =>
    obtain ⟨e, rfl, hexplains⟩ := hinserts.explainsRejections c b fault hmem
    exact ⟨e, rfl, hexplains⟩

/-- What comes before and rejects none leaves the explanation as it is. -/
theorem ExplainsRejections.after {α : Type} {outcome : Except SqlError α}
    {first second : List Exchange} (h : s.ExplainsRejections outcome second)
    (hfirst : RejectsNone first) : s.ExplainsRejections outcome (first ++ second) := by
  obtain ⟨hrejections, hsearches⟩ := hfirst.append_left second
  rw [ExplainsRejections, hrejections, hsearches]
  exact h

theorem Informs.sameTable {after : BulkSession} {trace : List Exchange}
    (h : s.Informs (.ok after) trace) :
    s.table = after.table ∧ s.connection = after.connection := by
  cases h <;> exact ⟨rfl, rfl⟩

theorem upload_explainsRejections (s : BulkSession) (data : DataSet) :
    (s.upload data).Ensures fun result trace => s.ExplainsRejections result.1 trace := by
  refine (s.upload_ensures data).mono fun result trace hends => ?_
  rcases hends with ⟨e, rfl, hinforms⟩ | ⟨first, second, rfl, hinforms, huploads⟩
  · intro c b fault hmem
    rw [hinforms.rejectsNone.1] at hmem
    contradiction
  · obtain ⟨htable, hconnection⟩ := hinforms.sameTable
    refine ExplainsRejections.after (fun c b fault hmem => ?_) hinforms.rejectsNone
    obtain ⟨e, houtcome, hexplains⟩ := huploads.explainsRejections c b fault hmem
    exact ⟨e, houtcome, hexplains.of_sameTable htable hconnection⟩

end BulkSession

/-! ## A table that is created -/

/-- The session in which a created table is loaded, on the given connection. -/
def Database.loadingSession (d : Database) (args : CreateTableArgs) (c : Connection) :
    BulkSession :=
  ⟨d.newTable args, c, true, { culture := args.culture, timeout := args.timeout }, none⟩

theorem Table.Loads.explainsRejections {t : Table} {data : DataSet} {culture : Culture}
    {timeout : UInt32} {outcome : Except SqlError Nat} {trace : List Exchange}
    (h : t.Loads data culture timeout outcome trace) :
    ∀ c b fault, (c, b, fault) ∈ rejections trace →
      ∃ e opened, outcome = .error e ∧
        BulkSession.Explains ⟨t, opened, true, { culture, timeout }, none⟩ b fault e
          (searches trace) := by
  intro c b fault hmem
  cases h with
  | notOpened _ | notDescribed _ _ => contradiction
  | @uploaded opened infos outcome trace huploads =>
    have hclose : RejectsNone [⟨.close opened, ()⟩] := ⟨rfl, rfl⟩
    obtain ⟨hrejections, hsearches⟩ :=
      hclose.append_right (⟨.openConnection (some t.database.name), .ok opened⟩ ::
        ⟨.describeColumns opened t.ref, .ok infos⟩ :: trace)
    rw [hrejections] at hmem
    rw [hsearches]
    obtain ⟨e, rfl, hexplains⟩ := huploads.explainsRejections c b fault hmem
    exact ⟨e, opened, rfl, hexplains.of_sameTable rfl rfl⟩

theorem Database.Creates.explainsRejections {d : Database} {args : CreateTableArgs}
    {plan : CreateTablePlan} {outcome : Except SqlError (Table × CreateTableReport)}
    {trace : List Exchange} (h : d.Creates args plan outcome trace) :
    ∀ c b fault, (c, b, fault) ∈ rejections trace →
      ∃ e opened, outcome = .error (.uploadAfterCreateFailed (plan.report args) e) ∧
        (d.loadingSession args opened).Explains b fault e (searches trace) := by
  intro c b fault hmem
  cases h with
  | notExecuted hcreating | created _ hcreating =>
    rw [hcreating.rejectsNone.1] at hmem
    contradiction
  | loaded _ hcreating hloading =>
    rw [(hcreating.rejectsNone.append_left _).1] at hmem
    obtain ⟨e, -, houtcome, -⟩ := hloading.explainsRejections c b fault hmem
    contradiction
  | @notLoaded _ cause _ _ _ hcreating hloading =>
    obtain ⟨hrejections, hsearches⟩ := hcreating.rejectsNone.append_left _
    rw [hrejections] at hmem
    rw [hsearches]
    obtain ⟨e, opened, houtcome, hexplains⟩ := hloading.explainsRejections c b fault hmem
    obtain rfl : cause = e := Except.error.inj houtcome
    exact ⟨cause, opened, rfl, hexplains⟩

/-- **A failed load never hides its cause**, whatever the engine answers, a rollback that fails
included.  When rows are rejected with a fault, the upload returns the fault itself, the fault with
what the search has found, or the fault with the error of the search; a fault of slowness is
returned without a search.  The fault of the engine can be got back from the error, also when the
creation of a table has wrapped it, so that slowness is still told from rejection. -/
theorem failed_load_keeps_cause (s : BulkSession) (data : DataSet) (d : Database)
    (args : CreateTableArgs) :
    (s.upload data).Ensures (fun result trace =>
      ∀ c b fault, (c, b, fault) ∈ rejections trace →
        ∃ e, result.1 = .error e ∧ s.Explains b fault e (searches trace) ∧
          e.adapterFault? = fault.adapterFault? ∧ Sqlite.isTimeout e = Sqlite.isTimeout fault) ∧
    (d.createTable args).run.Ensures (fun outcome trace =>
      ∀ c b fault, (c, b, fault) ∈ rejections trace →
        ∃ report e opened, outcome = .error (.uploadAfterCreateFailed report e) ∧
          (d.loadingSession args opened).Explains b fault e (searches trace) ∧
          (SqlError.uploadAfterCreateFailed report e).adapterFault? = fault.adapterFault? ∧
          Sqlite.isTimeout (.uploadAfterCreateFailed report e) = Sqlite.isTimeout fault) := by
  have htimeout : ∀ e fault : SqlError, e.adapterFault? = fault.adapterFault? →
      Sqlite.isTimeout e = Sqlite.isTimeout fault := by
    intro e fault hcause
    rw [Sqlite.isTimeout, Sqlite.isTimeout, hcause]
  constructor
  · refine (s.upload_explainsRejections data).mono fun result trace hexplained c b fault hmem => ?_
    obtain ⟨e, houtcome, hexplains⟩ := hexplained c b fault hmem
    have hcause := hexplains.adapterFault?_eq
    exact ⟨e, houtcome, hexplains, hcause, htimeout _ _ hcause⟩
  · rw [Database.createTable]
    cases hplan : planCreateTable d args with
    | error e => exact .done fun c b fault hmem => by contradiction
    | ok plan =>
      show Program.Ensures (d.createPlanned args plan).run _
      refine (d.createPlanned_ensures args plan).mono fun outcome trace hcreates => ?_
      intro c b fault hmem
      obtain ⟨e, opened, houtcome, hexplains⟩ := hcreates.explainsRejections c b fault hmem
      have hcause : (SqlError.uploadAfterCreateFailed (plan.report args) e).adapterFault? =
          fault.adapterFault? := hexplains.adapterFault?_eq
      exact ⟨_, e, opened, houtcome, hexplains, hcause, htimeout _ _ hcause⟩

/-- The one rejection of a trace, by its connection and the fault of the engine. -/
theorem exists_rejections_eq_singleton {trace : List Exchange} {c : Connection}
    {cause : AdapterFault}
    (h : (rejections trace).map (fun r => (r.1, r.2.2.adapterFault?)) = [(c, some cause)]) :
    ∃ b fault, rejections trace = [(c, b, fault)] ∧ fault.adapterFault? = some cause := by
  obtain ⟨⟨c, b, fault⟩, hone, hsame⟩ := List.map_eq_singleton_iff.mp h
  obtain ⟨rfl, hfault⟩ := Prod.mk.inj hsame
  exact ⟨b, fault, hone, hfault⟩

/-- A note is rejected and looked for, both in a session and where the table has just been created.
The errors still tell that it was there already. -/
theorem failed_load_keeps_cause_duplicate :
    let engine := Script.engine.expand .sqliteRows
    let session := (shop .mssql).loadingSession notesTable ⟨1, some "shop"⟩
    let uploaded := (session.upload oneNote).run engine rejectingScript
    let created := ((shop .mssql).createTable notesTable).run.run engine rejectingScript
    (∃ b fault e, rejections uploaded.2.1 = [(⟨1, some "shop"⟩, b, fault)] ∧
      (searches uploaded.2.1).length = 1 ∧ uploaded.1.1 = .error e ∧
      session.Explains b fault e (searches uploaded.2.1) ∧ e.adapterFault? = some duplicateNote) ∧
    ∃ b fault report e opened, rejections created.2.1 = [(⟨2, some "shop"⟩, b, fault)] ∧
      (searches created.2.1).length = 1 ∧
      created.1 = .error (.uploadAfterCreateFailed report e) ∧
      ((shop .mssql).loadingSession notesTable opened).Explains b fault e (searches created.2.1) ∧
      (SqlError.uploadAfterCreateFailed report e).adapterFault? = some duplicateNote := by
  intro engine session
  obtain ⟨hupload, hcreate⟩ :=
    failed_load_keeps_cause session oneNote (shop .mssql) notesTable
  have huploaded := hupload Script engine rejectingScript
  have hcreated := hcreate Script engine rejectingScript
  have hone : ∃ b fault, rejections ((session.upload oneNote).run engine rejectingScript).2.1 =
      [(⟨1, some "shop"⟩, b, fault)] ∧ fault.adapterFault? = some duplicateNote :=
    exists_rejections_eq_singleton (by decide +kernel)
  have hone' : ∃ b fault,
      rejections (((shop .mssql).createTable notesTable).run.run engine rejectingScript).2.1 =
      [(⟨2, some "shop"⟩, b, fault)] ∧ fault.adapterFault? = some duplicateNote :=
    exists_rejections_eq_singleton (by decide +kernel)
  have hsearched :
      (searches ((session.upload oneNote).run engine rejectingScript).2.1).length = 1 ∧
      (searches (((shop .mssql).createTable notesTable).run.run
        engine rejectingScript).2.1).length = 1 := by decide +kernel
  -- what the runs are in full is of no further account
  generalize (session.upload oneNote).run engine rejectingScript = uploaded at *
  generalize ((shop .mssql).createTable notesTable).run.run engine rejectingScript = created at *
  obtain ⟨b, fault, hone, hfault⟩ := hone
  obtain ⟨b', fault', hone', hfault'⟩ := hone'
  obtain ⟨e, houtcome, hexplains, hcause, -⟩ :=
    huploaded _ b fault (hone ▸ List.mem_singleton_self _)
  obtain ⟨report, e', opened, houtcome', hexplains', hcause', -⟩ :=
    hcreated _ b' fault' (hone' ▸ List.mem_singleton_self _)
  exact ⟨⟨b, fault, e, hone, hsearched.1, houtcome, hexplains, hcause.trans hfault⟩,
    b', fault', report, e', opened, hone', hsearched.2, houtcome', hexplains',
    hcause'.trans hfault'⟩

end SqlDialects
