import SqlDialects.Dialect.Style
import SqlDialects.Identifier
import SqlDialects.Schema.Transaction
import SqlDialects.Text.Ascii

/-!
# Servers and databases

A `Server` is a way to an engine; a `Database` is the name of a database on it, whether or not there
is one.

## Main definitions

* `Server`, `Database` — the handles.
* `Server.exists?`, `Server.listDatabases` — asking the server.
* `Database.create`, `Database.drop`, `Database.exists?` — the databases on it.
-/

set_option autoImplicit false

namespace SqlDialects

open Text

/-- A way to an engine. -/
structure Server where
  dialect : Dialect
  /-- The database that is meant if none is named. -/
  defaultDatabase : Option String := none
  /-- Whether an error means that the engine was too slow. -/
  isTimeout : SqlError → Bool
  /-- Where the names of constraints take their random parts from. -/
  tokens : TokenSource

/-- A database on a server. -/
structure Database where
  server : Server
  name : String

namespace Server

/-- The database of the given name. -/
def database (s : Server) (name : String) : Database := ⟨s, name⟩

/-- The database that is meant if none is named. -/
def currentDatabase (s : Server) : Option Database := s.defaultDatabase.map s.database

/-- The server as a line of text. -/
def describe (s : Server) : String :=
  "DiscoveredServer \x7b database_type: " ++ s.dialect.title ++ ", default_database: " ++
    quotedOption s.defaultDatabase ++ " \x7d"

/-- The databases of the server. -/
def listDatabases (s : Server) : Action (List Database) := do
  let names ← withConnection none none fun c => Action.ask (.listDatabases c) rfl
  pure (names.map s.database)

/-- Whether the server can be reached.  If it was too slow to tell, that is an error. -/
def exists? (s : Server) : Action Bool := do
  match ← (Action.openConnection none).attempt with
  | .ok c =>
    closeConnection c
    pure true
  | .error e => if s.isTimeout e then throw e else pure false

/-- Opens a connection to the default database and begins a transaction on it. -/
def beginTransaction (s : Server) : Action Transaction := do
  let c ← Action.openConnection s.defaultDatabase
  Transaction.start c

end Server

namespace Database

/-- The dialect of the server. -/
def dialect (d : Database) : Dialect := d.server.dialect

/-- Whether there is such a database, whatever the case of its name. -/
def exists? (d : Database) (transaction : Option Transaction) : Action Bool :=
  withConnection none transaction fun c => do
    let names : List String ← Action.ask (.listDatabases c) rfl
    pure (names.any fun name => sameName name d.name)

/-- Creates the database. -/
def create (d : Database) : Action Unit := do
  d.dialect.style.checkObjectName .database d.name
  withConnection none none fun c => Action.ask (.createDatabase c d.name) rfl

/-- Removes the database. -/
def drop (d : Database) : Action Unit :=
  withConnection none none fun c => Action.ask (.dropDatabase c d.name) rfl

end Database

end SqlDialects
