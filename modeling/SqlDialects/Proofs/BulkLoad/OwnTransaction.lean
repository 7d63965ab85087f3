import SqlDialects.Proofs.BulkLoad.Upload

/-!
# The transactions of a bulk load

A session that has opened its connection loads every dataset in a transaction.  A session within a
transaction of its caller leaves that alone.

* **`TransactionEvent`** — what happens to transactions; `transactionEvents` reads it off a trace.
* **`EndsTransactions`** — every transaction that is begun is ended, in one way.
* **`IsOneTransaction`** — what there is of transactions in one upload.
* **`uploadSteps_end_transactions_iff`** — an upload ends its transaction unless the commit fails.

The commit is the last step of an upload.  If it fails, nothing follows on the connection, so the
transaction is neither committed nor rolled back (`uploadSteps_commit_fails`), and the next upload
of the session begins within it.
-/

set_option autoImplicit false

namespace SqlDialects

/-! ## What happens to transactions -/

/-- What happens to the transactions of connections. -/
inductive TransactionEvent where
  | begun (c : Connection)
  | notBegun (c : Connection)
  | committed (c : Connection)
  | notCommitted (c : Connection)
  /-- A rollback is asked for; whether it succeeds is of no account. -/
  | rolledBack (c : Connection)
deriving DecidableEq, Repr

/-- What an exchange does to a transaction. -/
def transactionEvent? : Exchange → Option TransactionEvent
  | ⟨.beginTransaction c, Except.ok _⟩ => some (.begun c)
  | ⟨.beginTransaction c, Except.error _⟩ => some (.notBegun c)
  | ⟨.commit c, Except.ok _⟩ => some (.committed c)
  | ⟨.commit c, Except.error _⟩ => some (.notCommitted c)
  | ⟨.rollback c, _⟩ => some (.rolledBack c)
  | _ => none

/-- What happens to transactions in the course of a trace. -/
def transactionEvents (trace : List Exchange) : List TransactionEvent :=
  trace.filterMap transactionEvent?

theorem transactionEvents_append (first second : List Exchange) :
    transactionEvents (first ++ second) = transactionEvents first ++ transactionEvents second :=
  List.filterMap_append

/-- Nothing happens to transactions by work alone. -/
theorem transactionEvents_of_isWorkOn {c : Connection} {trace : List Exchange}
    (h : IsWorkOn c trace) : transactionEvents trace = [] := by
  refine List.filterMap_eq_nil_iff.mpr fun x hx => ?_
  obtain ⟨call, answer⟩ := x
  have hwork := h _ hx
  cases call with
  | beginTransaction d | commit d | rollback d => exact hwork.elim
  | _ => rfl

/-- **Every transaction that is begun is ended**, by a commit that succeeds or by a rollback, and
not by both. -/
def EndsTransactions : List TransactionEvent → Prop
  | [] => True
  | .begun c :: rest =>
    ((.committed c ∈ rest ∨ .rolledBack c ∈ rest) ∧
      ¬ (.committed c ∈ rest ∧ .rolledBack c ∈ rest)) ∧ EndsTransactions rest
  | _ :: rest => EndsTransactions rest

/-- What there is of transactions in one upload on the connection `c`. -/
inductive IsOneTransaction (c : Connection) : List TransactionEvent → Prop
  | nothing : IsOneTransaction c []
  | notBegun : IsOneTransaction c [.notBegun c]
  | committed : IsOneTransaction c [.begun c, .committed c]
  | notCommitted : IsOneTransaction c [.begun c, .notCommitted c]
  | rolledBack : IsOneTransaction c [.begun c, .rolledBack c]

/-- One transaction is ended unless its commit fails. -/
theorem IsOneTransaction.endsTransactions_iff {c : Connection} {events : List TransactionEvent}
    (h : IsOneTransaction c events) :
    EndsTransactions events ↔ .notCommitted c ∉ events := by
  cases h <;> simp [EndsTransactions]

namespace BulkSession

variable {s : BulkSession} {b : BulkInsert} {data : DataSet}

/-! ## One upload -/

/-- What is done about transactions on the connection of a session: nothing, unless the session has
opened it. -/
def TreatsTransactions (s : BulkSession) (events : List TransactionEvent) : Prop :=
  if s.ownsConnection then IsOneTransaction s.connection events else events = []

theorem treatsTransactions_of_owns (howns : s.ownsConnection = true)
    {events : List TransactionEvent} :
    s.TreatsTransactions events ↔ IsOneTransaction s.connection events := by
  rw [TreatsTransactions, if_pos howns]

theorem treatsTransactions_of_borrows (hborrows : s.ownsConnection = false)
    {events : List TransactionEvent} : s.TreatsTransactions events ↔ events = [] := by
  rw [TreatsTransactions, hborrows, if_neg Bool.false_ne_true]

theorem treatsTransactions_nil (s : BulkSession) : s.TreatsTransactions [] := by
  rw [TreatsTransactions]
  split
  · exact .nothing
  · rfl

theorem Inserts.treatsTransactions {outcome : Except SqlError Nat} {trace : List Exchange}
    (h : s.Inserts b outcome trace) : s.TreatsTransactions (transactionEvents trace) := by
  cases h with
  | notBegun howns e => exact (treatsTransactions_of_owns howns).mpr .notBegun
  | committed howns rows => exact (treatsTransactions_of_owns howns).mpr .committed
  | notCommitted howns rows e => exact (treatsTransactions_of_owns howns).mpr .notCommitted
  | @rolledBack howns fault undone e search hexplains =>
    rw [treatsTransactions_of_owns howns]
    show IsOneTransaction s.connection
      (.begun s.connection :: .rolledBack s.connection :: transactionEvents search)
    rw [transactionEvents_of_isWorkOn hexplains.isWorkOn]
    exact .rolledBack
  | taken hborrows rows => exact (treatsTransactions_of_borrows hborrows).mpr rfl
  | rejected hborrows fault hexplains =>
    rw [treatsTransactions_of_borrows hborrows]
    exact transactionEvents_of_isWorkOn (List.forall_mem_cons.mpr ⟨rfl, hexplains.isWorkOn⟩)

theorem Uploads.treatsTransactions {outcome : Except SqlError UploadStats} {trace : List Exchange}
    (h : s.Uploads data outcome trace) : s.TreatsTransactions (transactionEvents trace) := by
  cases h with
  | notMapped _ | empty _ _ | notReady _ _ _ => exact s.treatsTransactions_nil
  | inserted _ _ _ hinserts => exact hinserts.treatsTransactions

/-- A session works on one connection from its beginning to its end. -/
def SharesConnection (s after : BulkSession) : Prop :=
  after.connection = s.connection ∧ after.ownsConnection = s.ownsConnection

theorem Informs.sharesConnection {after : BulkSession} {trace : List Exchange}
    (h : s.Informs (.ok after) trace) : s.SharesConnection after := by
  cases h <;> exact ⟨rfl, rfl⟩

theorem SharesConnection.treatsTransactions {after : BulkSession}
    {events : List TransactionEvent} (h : s.SharesConnection after)
    (hevents : after.TreatsTransactions events) : s.TreatsTransactions events := by
  rwa [TreatsTransactions, h.1, h.2] at hevents

theorem upload_treatsTransactions (s : BulkSession) (data : DataSet) :
    (s.upload data).Ensures fun result trace =>
      s.SharesConnection result.2 ∧ s.TreatsTransactions (transactionEvents trace) := by
  refine (s.upload_ensures data).mono fun result trace hends => ?_
  rcases hends with ⟨e, rfl, hinforms⟩ | ⟨first, second, rfl, hinforms, huploads⟩
  · refine ⟨⟨rfl, rfl⟩, ?_⟩
    rw [transactionEvents_of_isWorkOn hinforms.isWorkOn]
    exact s.treatsTransactions_nil
  · refine ⟨hinforms.sharesConnection, ?_⟩
    rw [transactionEvents_append, transactionEvents_of_isWorkOn hinforms.isWorkOn, List.nil_append]
    exact hinforms.sharesConnection.treatsTransactions huploads.treatsTransactions

end BulkSession

/-! ## The calls of a session -/

/-- What the holder of a session may do with it. -/
inductive SessionCall where
  | upload (data : DataSet)
  /-- Has the columns of the table asked for, if they are not known. -/
  | learnColumns
  | forgetColumns
  | set (settings : BulkLoadSettings)

/-- Carries out a call, and gives the session as it is afterwards. -/
def BulkSession.perform (s : BulkSession) : SessionCall → Program BulkSession
  | .upload data => (s.upload data).andThen fun result => .done result.2
  | .learnColumns => s.withColumns.run.andThen fun outcome => .done (outcome.toOption.getD s)
  | .forgetColumns => .done s.forgetColumns
  | .set settings => .done (s.withSettings settings)

/-- One call of a session, with the trace that it leaves. -/
structure SessionStep where
  call : SessionCall
  trace : List Exchange

/-- The calls of a session, each on the session that the one before it has left. -/
def BulkSession.steps {σ : Type} (engine : Engine σ) :
    List SessionCall → BulkSession → σ → List SessionStep
  | [], _, _ => []
  | call :: calls, s, state =>
    let (after, trace, state) := (s.perform call).run engine state
    ⟨call, trace⟩ :: steps engine calls after state

/-- The calls of a session that is begun on a table, within the given transaction or on a connection
of its own.  There are none if it cannot be begun. -/
def Table.uploadSteps {σ : Type} (engine : Engine σ) (t : Table) (culture : Culture)
    (transaction : Option Transaction) (calls : List SessionCall) (state : σ) :
    List SessionStep :=
  match (t.beginBulkLoad culture transaction).run.run engine state with
  | (.error _, _, _) => []
  | (.ok s, _, state) => BulkSession.steps engine calls s state

namespace BulkSession

theorem perform_treatsTransactions (s : BulkSession) (call : SessionCall) :
    (s.perform call).Ensures fun after trace =>
      s.SharesConnection after ∧ s.TreatsTransactions (transactionEvents trace) := by
  cases call with
  | upload data =>
    refine .andThen (s.upload_treatsTransactions data) fun result trace h => .done ?_
    rwa [List.append_nil]
  | learnColumns =>
    refine .andThen s.withColumns_ensures fun outcome trace hinforms => .done ?_
    rw [List.append_nil, transactionEvents_of_isWorkOn hinforms.isWorkOn]
    refine ⟨?_, s.treatsTransactions_nil⟩
    cases outcome with
    | error e => exact ⟨rfl, rfl⟩
    | ok after => exact hinforms.sharesConnection
  | forgetColumns => exact .done ⟨⟨rfl, rfl⟩, s.treatsTransactions_nil⟩
  | set settings => exact .done ⟨⟨rfl, rfl⟩, s.treatsTransactions_nil⟩

/-- Every call of a session treats transactions as the session has begun with. -/
theorem steps_treatTransactions {σ : Type} (engine : Engine σ) (calls : List SessionCall)
    (s : BulkSession) (state : σ) :
    ∀ step ∈ steps engine calls s state, s.TreatsTransactions (transactionEvents step.trace) := by
  induction calls generalizing s state with
  | nil => simp [steps]
  | cons call calls ih =>
    obtain ⟨hshares, htreats⟩ := s.perform_treatsTransactions call σ engine state
    rw [steps, List.forall_mem_cons]
    refine ⟨htreats, fun step hstep => ?_⟩
    exact hshares.treatsTransactions (ih _ _ step hstep)

end BulkSession

/-- A session owns its connection just if it has no transaction of its caller to work in. -/
theorem Table.beginBulkLoad_ownsConnection (t : Table) (culture : Culture)
    (transaction : Option Transaction) :
    (t.beginBulkLoad culture transaction).run.Ensures fun outcome _ =>
      ∀ s, outcome = .ok s → s.ownsConnection = transaction.isNone := by
  cases transaction with
  | some own => exact .done fun s h => (Except.ok.inj h) ▸ rfl
  | none =>
    refine .ask fun opened => ?_
    cases opened with
    | error e => exact .done fun s h => by contradiction
    | ok c => exact .done fun s h => (Except.ok.inj h) ▸ rfl

/-- **An upload ends its own transaction unless the commit fails**, whatever the engine answers and
whatever was done with the session before.  Within a transaction of its caller a session neither
begins nor ends any. -/
theorem uploadSteps_end_transactions_iff {σ : Type} (engine : Engine σ) (t : Table)
    (culture : Culture) (transaction : Option Transaction) (calls : List SessionCall) (state : σ) :
    let steps := t.uploadSteps engine culture transaction calls state
    match transaction with
    | none =>
      ∃ c, ∀ step ∈ steps, IsOneTransaction c (transactionEvents step.trace) ∧
        (EndsTransactions (transactionEvents step.trace) ↔
          .notCommitted c ∉ transactionEvents step.trace)
    | some _ => ∀ step ∈ steps, transactionEvents step.trace = [] := by
  intro steps
  have howns := t.beginBulkLoad_ownsConnection culture transaction σ engine state
  simp only [steps, Table.uploadSteps]
  generalize (t.beginBulkLoad culture transaction).run.run engine state = begun at howns
  obtain ⟨outcome, _, state⟩ := begun
  cases outcome with
  | error e => cases transaction <;> simp
  | ok s =>
    have hsteps := s.steps_treatTransactions engine calls state
    have howns : s.ownsConnection = transaction.isNone := howns s rfl
    cases transaction with
    | none =>
      refine ⟨s.connection, fun step hstep => ?_⟩
      have hone := (BulkSession.treatsTransactions_of_owns howns).mp (hsteps step hstep)
      exact ⟨hone, hone.endsTransactions_iff⟩
    | some own =>
      intro step hstep
      exact (BulkSession.treatsTransactions_of_borrows howns).mp (hsteps step hstep)

/-- An engine that loses the connection at the first commit. -/
def lostOnCommit : Script where
  tables := [{ info := ⟨"t", none, .table⟩
               columns := [{ name := "a", sqlType := "int", nullable := true }] }]
  failRules := [{ on := .committed, fault := .adapter ⟨"lost connection", none⟩ }]

/-- A table of an SQL Server, to be loaded with numbers. -/
def numberTable : Table :=
  ⟨⟨⟨.mssql, none, fun _ => false, default⟩, "shop"⟩, "t", none, .table⟩

/-- One column with one row. -/
def oneNumber : DataSet where
  name := "in"
  columns := [{ name := "a" }]
  rows := [[.text "1"]]

/-- When the commit of an upload fails, its transaction is left open. -/
theorem uploadSteps_commit_fails :
    ∃ step ∈ numberTable.uploadSteps Script.engine .invariant none [.upload oneNumber] lostOnCommit,
      ¬ EndsTransactions (transactionEvents step.trace) := by
  have hevents :
      (numberTable.uploadSteps Script.engine .invariant none [.upload oneNumber] lostOnCommit).map
          (fun step => transactionEvents step.trace) =
        [[.begun ⟨1, some "shop"⟩, .notCommitted ⟨1, some "shop"⟩]] := by
    decide +kernel
  obtain ⟨step, hsteps, hstep⟩ := List.map_eq_singleton_iff.mp hevents
  refine ⟨step, ?_, ?_⟩
  · rw [hsteps]
    exact List.mem_singleton_self step
  · rw [hstep]
    simp [EndsTransactions]

end SqlDialects
