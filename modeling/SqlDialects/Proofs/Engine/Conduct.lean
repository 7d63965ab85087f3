import SqlDialects.Engine.Script
import SqlDialects.Proofs.Engine.Ensures

/-!
# How a program treats connections

Who opens a connection closes it, and who begins a transaction ends it.  Everything else that is
done on a connection is work, and work is what may be left to somebody else's transaction.

* **`Call.WorksOn`** — a call that is work on a connection.
* **`Program.WorksOn`** — a program that does nothing but work on a connection, whatever the answers
  are.  Its rules follow the tree, as those of `Program.Ensures` do.
* **`Executes`** — commands that are given one after the other, up to the first that fails.

Some calls are carried out by programs of more elementary ones.  Where the call is work on a
connection, so is its program (`Expansion.KeepsWork`).
-/

set_option autoImplicit false

namespace SqlDialects

/-! ## Work -/

/-- **Work on a connection**: the call neither opens nor closes a connection nor begins or ends a
transaction. -/
def Call.WorksOn (c : Connection) : Call → Prop
  | execute d _ | query d _ | listDatabases d | createDatabase d _ | dropDatabase d _
  | listTables d _ _ | describeColumns d _ | listRelationships d _ | dropTable d _
  | bulkInsert d _ | investigate d _ _ => d = c
  | openConnection _ | close _ | beginTransaction _ | commit _ | rollback _ => False

/-- A trace of nothing but work on a connection. -/
def IsWorkOn (c : Connection) (trace : List Exchange) : Prop := ∀ x ∈ trace, x.1.WorksOn c

variable {c : Connection}

theorem isWorkOn_nil : IsWorkOn c [] := List.forall_mem_nil _

theorem IsWorkOn.append {first second : List Exchange} (hfirst : IsWorkOn c first)
    (hsecond : IsWorkOn c second) : IsWorkOn c (first ++ second) :=
  List.forall_mem_append.mpr ⟨hfirst, hsecond⟩

theorem isWorkOn_singleton {x : Exchange} (h : x.1.WorksOn c) : IsWorkOn c [x] :=
  List.forall_mem_singleton.mpr h

/-- A program that only works on a connection, whatever the engine answers. -/
def Program.WorksOn {α : Type} (c : Connection) (p : Program α) : Prop :=
  p.Ensures fun _ trace => IsWorkOn c trace

namespace Program.WorksOn

variable {α β : Type}

theorem done (a : α) : (Program.done a).WorksOn c := Ensures.done isWorkOn_nil

theorem andThen {p : Program α} {f : α → Program β} (hp : p.WorksOn c)
    (hf : ∀ a, (f a).WorksOn c) : (p.andThen f).WorksOn c :=
  Ensures.andThen hp fun a _ hfirst => Ensures.mono (hf a) fun _ _ hsecond => hfirst.append hsecond

theorem bind {x : Action α} {f : α → Action β} (hx : x.run.WorksOn c)
    (hf : ∀ a, (f a).run.WorksOn c) : (x >>= f).run.WorksOn c :=
  Ensures.bind hx
    (fun a _ hfirst => Ensures.mono (hf a) fun _ _ hsecond => hfirst.append hsecond)
    fun _ _ hfirst => hfirst

theorem call {call : Call} {h : call.Answer = Except SqlError α} (hcall : call.WorksOn c) :
    (Action.ask call h).run.WorksOn c :=
  Ensures.call fun _ => isWorkOn_singleton hcall

theorem attempt {x : Action α} (hx : x.run.WorksOn c) : x.attempt.run.WorksOn c :=
  Ensures.attempt hx

end Program.WorksOn

/-! ## Commands in order -/

/-- **Commands are given in order**, up to and including the first that fails.  The outcome is its
error, if there is one. -/
inductive Executes (c : Connection) : List Command → Except SqlError Unit → List Exchange → Prop
  | nothing : Executes c [] (.ok ()) []
  | failed (command : Command) (rest : List Command) (e : SqlError) :
      Executes c (command :: rest) (.error e) [⟨.execute c command, .error e⟩]
  | passed (command : Command) (count : Nat) {rest : List Command} {outcome : Except SqlError Unit}
      {trace : List Exchange} (h : Executes c rest outcome trace) :
      Executes c (command :: rest) outcome (⟨.execute c command, .ok count⟩ :: trace)

namespace Executes

variable {commands : List Command} {outcome : Except SqlError Unit} {trace : List Exchange}

theorem isWorkOn (h : Executes c commands outcome trace) : IsWorkOn c trace := by
  induction h with
  | nothing => exact isWorkOn_nil
  | failed command rest e => exact isWorkOn_singleton rfl
  | passed command count _ ih => exact List.forall_mem_cons.mpr ⟨rfl, ih⟩

theorem givenCommands_prefix (h : Executes c commands outcome trace) :
    givenCommands trace <+: commands := by
  induction h with
  | nothing => exact List.nil_prefix
  | failed command rest e => exact ⟨rest, rfl⟩
  | passed command count _ ih =>
    rw [givenCommands_cons]
    exact List.cons_prefix_cons.mpr ⟨rfl, ih⟩

/-- The first of them is given in any case. -/
theorem givenCommands_ne_nil (h : Executes c commands outcome trace) (hne : commands ≠ []) :
    givenCommands trace ≠ [] := by
  cases h with
  | nothing => contradiction
  | failed command rest e | passed command count _ => simp [givenCommands_cons, command?]

/-- Where none of them fails, all commands have been given. -/
theorem givenCommands_eq (h : Executes c commands (.ok ()) trace) :
    givenCommands trace = commands := by
  generalize houtcome : (Except.ok () : Except SqlError Unit) = outcome at h
  induction h with
  | nothing => rfl
  | failed command rest e => contradiction
  | passed command count _ ih =>
    rw [givenCommands_cons, ih houtcome]
    rfl

end Executes

/-- An action that is to give one command and then do another thing. -/
theorem Program.Ensures.execute_bind {α : Type} {command : Command} {f : Nat → Action α}
    {post : Except SqlError α → List Exchange → Prop}
    (hok : ∀ count, (f count).run.Ensures fun outcome trace =>
      post outcome (⟨.execute c command, .ok count⟩ :: trace))
    (herror : ∀ e, post (.error e) [⟨.execute c command, .error e⟩]) :
    (Action.execute c command >>= f).run.Ensures post := by
  refine .ask fun answer => ?_
  cases answer with
  | error e => exact .done (herror e)
  | ok count => exact hok count

/-! ## Compound calls -/

theorem worksOn_execute (c : Connection) (command : Command) :
    (Action.execute c command).run.WorksOn c :=
  .call rfl

theorem worksOn_query (c : Connection) (command : Command) :
    (Action.query c command).run.WorksOn c :=
  .call rfl

theorem worksOn_scalar (c : Connection) (command : Command) :
    (Action.scalar c command).run.WorksOn c :=
  .bind (worksOn_query c command) fun _ => .done _

/-- **Rows are inserted in order**, one by one, up to and including the first that is rejected. -/
theorem insertRows_executes (c : Connection) (b : BulkInsert) (rows : List (List SqlValue)) :
    (insertRows c b rows).run.Ensures fun outcome trace =>
      Executes c (rows.map b.rowCommand) (outcome.map fun _ => ()) trace := by
  induction rows with
  | nil => exact .done .nothing
  | cons row rows ih =>
    refine .execute_bind (fun count => ?_) fun e => .failed _ _ e
    refine .bind ih (fun more trace hrest => .done ?_) fun e trace hrest => .passed _ count hrest
    rw [List.append_nil]
    exact .passed _ count hrest

theorem worksOn_insertRows (c : Connection) (b : BulkInsert) (rows : List (List SqlValue)) :
    (insertRows c b rows).run.WorksOn c :=
  (insertRows_executes c b rows).mono fun _ _ hexecutes => hexecutes.isWorkOn

namespace Sqlite

theorem worksOn_listTables (c : Connection) (database : String) (includeViews : Bool) :
    (listTables c database includeViews).run.WorksOn c :=
  .bind (worksOn_query c _) fun _ => .done _

theorem worksOn_relationshipsOf (c : Connection) (schema table : String) (tokens : TokenSource)
    (children : List TableInfo) :
    (relationshipsOf c schema table tokens children).run.WorksOn c := by
  induction children generalizing tokens with
  | nil => exact .done _
  | cons child children ih => exact .bind (worksOn_query c _) fun _ => .bind (ih _) fun _ => .done _

theorem worksOn_dropTable (c : Connection) (table : TableRef) :
    (dropTable c table).run.WorksOn c := by
  rw [dropTable]
  split
  · exact .done _
  · exact .bind (worksOn_execute c _) fun _ => .done _

theorem worksOn_releaseSavepoint (c : Connection) : (releaseSavepoint c).run.WorksOn c :=
  .bind (worksOn_execute c _) fun _ => .done _

theorem worksOn_undoToSavepoint (c : Connection) : (undoToSavepoint c).run.WorksOn c :=
  .bind (worksOn_execute c _) fun _ => worksOn_releaseSavepoint c

theorem worksOn_bulkInsert (c : Connection) (b : BulkInsert) :
    (bulkInsert c b).run.WorksOn c := by
  refine .bind (.bind (worksOn_execute c _) fun _ => .done _) fun _ => ?_
  refine .bind (.attempt (worksOn_insertRows c b b.rows)) fun outcome => ?_
  cases outcome with
  | ok affected => exact .bind (worksOn_releaseSavepoint c) fun _ => .done _
  | error fault => exact .bind (worksOn_undoToSavepoint c) fun _ => .done _

theorem worksOn_findRejected (c : Connection) (b : BulkInsert) (index : Nat)
    (rows : List (List SqlValue)) : (findRejected c b index rows).run.WorksOn c := by
  induction rows generalizing index with
  | nil => exact .done _
  | cons row rows ih =>
    refine .bind (.attempt (worksOn_execute c _)) fun outcome => ?_
    cases outcome with
    | ok affected => exact ih (index + 1)
    | error fault => exact .done _

theorem worksOn_investigate (c : Connection) (b : BulkInsert) :
    (investigate c b).run.WorksOn c :=
  .bind (.bind (worksOn_execute c _) fun _ => .done _) fun _ =>
    .bind (worksOn_findRejected c b 0 b.rows) fun _ =>
      .bind (worksOn_undoToSavepoint c) fun _ => .done _

end Sqlite

namespace Expansion

/-- **What a call is carried out by is work where the call is**, on the same connection. -/
def KeepsWork (x : Expansion) : Prop :=
  ∀ (c : Connection) (call : Call) (program : Program call.Answer),
    x call = some program → call.WorksOn c → program.WorksOn c

theorem plainRows_keepsWork : plainRows.KeepsWork := by
  intro c call program h hcall
  cases call with
  | bulkInsert d b =>
    obtain rfl : d = c := hcall
    obtain rfl := Option.some.inj h
    exact worksOn_insertRows d b b.rows
  | _ => contradiction

theorem sqliteRows_keepsWork : sqliteRows.KeepsWork := by
  intro c call program h hcall
  cases call with
  | bulkInsert d b =>
    obtain rfl : d = c := hcall
    obtain rfl := Option.some.inj h
    exact Sqlite.worksOn_bulkInsert d b
  | investigate d b fault =>
    obtain rfl : d = c := hcall
    obtain rfl := Option.some.inj h
    exact Sqlite.worksOn_investigate d b
  | _ => contradiction

theorem sqliteCatalog_keepsWork (tokens : TokenSource) : (sqliteCatalog tokens).KeepsWork := by
  intro c call program h hcall
  cases call with
  | listDatabases d =>
    obtain rfl : d = c := hcall
    obtain rfl := Option.some.inj h
    exact .bind (worksOn_query d _) fun _ => .done _
  | createDatabase d database | dropDatabase d database =>
    obtain rfl := Option.some.inj h
    exact .done _
  | listTables d database includeViews =>
    obtain rfl : d = c := hcall
    obtain rfl := Option.some.inj h
    exact Sqlite.worksOn_listTables d database includeViews
  | describeColumns d table =>
    obtain rfl : d = c := hcall
    obtain rfl := Option.some.inj h
    exact .bind (worksOn_scalar d _) fun _ => .bind (worksOn_query d _) fun _ => .done _
  | listRelationships d table =>
    obtain rfl : d = c := hcall
    obtain rfl := Option.some.inj h
    exact .bind (Sqlite.worksOn_listTables d _ false) fun _ =>
      Sqlite.worksOn_relationshipsOf d _ _ _ _
  | dropTable d table =>
    obtain rfl : d = c := hcall
    obtain rfl := Option.some.inj h
    exact Sqlite.worksOn_dropTable d table
  | _ => contradiction

theorem KeepsWork.orElse {x y : Expansion} (hx : x.KeepsWork) (hy : y.KeepsWork) :
    (x.orElse y).KeepsWork := by
  intro c call program h hcall
  rcases Option.or_eq_some_iff.mp h with h | ⟨-, h⟩
  · exact hx c call program h hcall
  · exact hy c call program h hcall

end Expansion

end SqlDialects
