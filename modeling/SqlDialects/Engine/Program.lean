import SqlDialects.Engine.Command

/-!
# Programs that call an engine

Whatever this library does to a database is a `Program`: a tree whose inner nodes are calls of the
engine, with one branch for every answer that the engine may give, and whose leaves are results.  A
program says nothing of how an engine comes to its answers, so what holds of every path through the
tree holds for every engine.

Running a program against an engine picks one path.  The calls and answers along it are its trace.

## Main definitions

* `Call`, `Call.Answer` — the calls, each with the type of its answers.
* `Program`, `Action` — programs, and programs that may fail.
* `Engine`, `Program.run` — an engine, and a run with its trace.
-/

set_option autoImplicit false

namespace SqlDialects

/-! ## Calls -/

/-- An open connection. -/
structure Connection where
  /-- Tells the connections of an engine apart. -/
  id : Nat
  /-- The database that the connection works on, if it is known. -/
  database : Option String := none
deriving DecidableEq, Repr, Inhabited

/-- A call of an engine. -/
inductive Call where
  /-- Opens a connection, to a certain database if one is given. -/
  | openConnection (database : Option String)
  /-- Gives up a connection. -/
  | close (c : Connection)
  | execute (c : Connection) (command : Command)
  | query (c : Connection) (command : Command)
  | beginTransaction (c : Connection)
  | commit (c : Connection)
  | rollback (c : Connection)
  | listDatabases (c : Connection)
  | createDatabase (c : Connection) (database : String)
  | dropDatabase (c : Connection) (database : String)
  | listTables (c : Connection) (database : String) (includeViews : Bool)
  | describeColumns (c : Connection) (table : TableRef)
  | listRelationships (c : Connection) (table : TableRef)
  | dropTable (c : Connection) (table : TableRef)
  | bulkInsert (c : Connection) (rows : BulkInsert)
  /-- Looks for the row that made a bulk insert fail. -/
  | investigate (c : Connection) (rows : BulkInsert) (fault : SqlError)
deriving Repr, Inhabited

/-- The answers to a call. -/
def Call.Answer : Call → Type
  | openConnection _ => Except SqlError Connection
  | close _ => Unit
  -- the count of affected rows
  | execute _ _ => Except SqlError Nat
  | query _ _ => Except SqlError (List (List SqlValue))
  | beginTransaction _ | commit _ | rollback _ => Except SqlError Unit
  | listDatabases _ => Except SqlError (List String)
  | createDatabase _ _ | dropDatabase _ _ | dropTable _ _ => Except SqlError Unit
  | listTables _ _ _ => Except SqlError (List TableInfo)
  | describeColumns _ _ => Except SqlError (List ColumnInfo)
  | listRelationships _ _ => Except SqlError (List Relationship)
  | bulkInsert _ _ => Except SqlError Nat
  -- what has been found, if anything
  | investigate _ _ _ => Except SqlError (Option String)

/-! ## Programs -/

/-- A program with a result. -/
inductive Program (α : Type) : Type where
  | done (result : α)
  | ask (call : Call) (next : call.Answer → Program α)

namespace Program

variable {α β γ : Type}

/-- Goes on with the result of a program. -/
def andThen : Program α → (α → Program β) → Program β
  | done a, f => f a
  | ask call next, f => ask call fun answer => (next answer).andThen f

theorem andThen_done (p : Program α) : p.andThen done = p := by
  induction p with
  | done a => rfl
  | ask call next ih => simp only [andThen]; exact congrArg _ (funext ih)

theorem andThen_assoc (p : Program α) (f : α → Program β) (g : β → Program γ) :
    (p.andThen f).andThen g = p.andThen fun a => (f a).andThen g := by
  induction p with
  | done a => rfl
  | ask call next ih => simp only [andThen]; exact congrArg _ (funext ih)

instance : Monad Program where
  pure := done
  bind := andThen

instance : LawfulMonad Program :=
  LawfulMonad.mk' Program andThen_done (fun _ _ => rfl) andThen_assoc

end Program

/-- A program that may fail. -/
abbrev Action (α : Type) := ExceptT SqlError Program α

/-- A call whose failure is that of the program. -/
def Action.ask {α : Type} (call : Call) (h : call.Answer = Except SqlError α) : Action α :=
  ExceptT.mk (Program.ask call fun answer => .done (h ▸ answer))

/-- Gives up a connection. -/
def closeConnection (c : Connection) : Program Unit := .ask (.close c) fun _ => .done ()

namespace Action

/-- Opens a connection. -/
def openConnection (database : Option String) : Action Connection :=
  ask (.openConnection database) rfl

/-- Executes a statement and gives the count of affected rows. -/
def execute (c : Connection) (command : Command) : Action Nat := ask (.execute c command) rfl

/-- Runs a query and gives its rows. -/
def query (c : Connection) (command : Command) : Action (List (List SqlValue)) :=
  ask (.query c command) rfl

/-- The first value of the first row of a query; null if there is none. -/
def scalar (c : Connection) (command : Command) : Action SqlValue := do
  let rows ← query c command
  pure ((rows.head?.bind List.head?).getD .null)

/-- Gives the columns of a table. -/
def describeColumns (c : Connection) (table : TableRef) : Action (List ColumnInfo) :=
  ask (.describeColumns c table) rfl

/-- The outcome of an action, be it a failure. -/
def attempt {α : Type} (action : Action α) : Action (Except SqlError α) :=
  ExceptT.mk (action.run.andThen fun outcome => .done (.ok outcome))

/-- Runs an action and then another program whose result is of no account, whether or not the action
fails. -/
def thenAlways {α : Type} (action : Action α) (last : Program Unit) : Action α :=
  ExceptT.mk (action.run.andThen fun result => last.andThen fun _ => .done result)

end Action

/-! ## Engines -/

/-- An engine whose answers depend on a state. -/
structure Engine (σ : Type) where
  answer : (call : Call) → σ → call.Answer × σ

/-- A call and the answer it got. -/
abbrev Exchange := (call : Call) × call.Answer

/-- Runs a program: its result, the trace, and the final state of the engine. -/
def Program.run {σ α : Type} (engine : Engine σ) : Program α → σ → α × List Exchange × σ
  | .done a, s => (a, [], s)
  | .ask call next, s =>
    let (answer, s) := engine.answer call s
    let (a, trace, s) := (next answer).run engine s
    (a, ⟨call, answer⟩ :: trace, s)

/-- A run of two programs in a row is a run of the first followed by one of the second. -/
theorem Program.run_andThen {σ α β : Type} (engine : Engine σ) (p : Program α)
    (f : α → Program β) (s : σ) :
    (p.andThen f).run engine s =
      let (a, first, s) := p.run engine s
      let (b, second, s) := (f a).run engine s
      (b, first ++ second, s) := by
  induction p generalizing s with
  | done a => rfl
  | ask call next ih => simp [andThen, run, ih]

end SqlDialects
