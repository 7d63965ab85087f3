import SqlDialects.Engine.Program

/-!
# Transactions

A `Transaction` is a connection with a transaction that its holder has opened and will end.  What
is done within somebody else's transaction uses its connection and leaves beginning, ending and
closing to its holder; what is done without one opens a connection for itself and closes it on
every way out.

## Main definitions

* `Transaction.start`, `commitAndClose`, `abandonAndClose`, `letGo` — the life of a transaction.
* `withConnection` — an action on the given transaction or on a connection of its own.
* `withTransaction` — the same, where the connection of its own gets a transaction too.
-/

set_option autoImplicit false

namespace SqlDialects

open Text

/-- A connection with an open transaction. -/
structure Transaction where
  connection : Connection
deriving DecidableEq, Repr, Inhabited

namespace Transaction

/-- The transaction as a line of text.  A transaction that is at hand is open. -/
def describe (t : Transaction) : String :=
  "ManagedTransaction \x7b open: true, database: " ++
    quotedOption t.connection.database ++ " \x7d"

/-- Begins a transaction.  If that fails the connection is given up. -/
def start (c : Connection) : Action Transaction := do
  match ← (Action.ask (.beginTransaction c) rfl : Action Unit).attempt with
  | .ok () => pure ⟨c⟩
  | .error e =>
    closeConnection c
    throw e

/-- Ends a transaction that was neither committed nor abandoned: it is rolled back as well as may
be, and its connection is given up. -/
def letGo (t : Transaction) : Program Unit :=
  .ask (.rollback t.connection) fun _ => closeConnection t.connection

/-- Commits.  If that fails the transaction is rolled back. -/
def commitAndClose (t : Transaction) : Action Unit := do
  match ← (Action.ask (.commit t.connection) rfl : Action Unit).attempt with
  | .ok () => closeConnection t.connection
  | .error e =>
    t.letGo
    throw e

/-- Rolls back. -/
def abandonAndClose (t : Transaction) : Action Unit :=
  (Action.ask (.rollback t.connection) rfl : Action Unit).thenAlways (closeConnection t.connection)

end Transaction

/-- Runs an action on the connection of the given transaction, or else on a connection of its
own. -/
def withConnection {α : Type} (database : Option String) (transaction : Option Transaction)
    (action : Connection → Action α) : Action α :=
  match transaction with
  | some t => action t.connection
  | none => do
    let c ← Action.openConnection database
    (action c).thenAlways (closeConnection c)

/-- Runs an action within the given transaction, or else within one of its own, which is committed
only if the action succeeds. -/
def withTransaction {α : Type} (database : Option String) (transaction : Option Transaction)
    (action : Connection → Action α) : Action α :=
  match transaction with
  | some t => action t.connection
  | none => do
    let c ← Action.openConnection database
    let own ← Transaction.start c
    match ← (action own.connection).attempt with
    | .ok a =>
      own.commitAndClose
      pure a
    | .error e =>
      own.letGo
      throw e

end SqlDialects
