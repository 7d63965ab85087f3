import SqlDialects.Engine.Sqlite

/-!
# Engines that follow a script

A `Script` lets programs be rehearsed without a database.  It says what the catalog holds, which
queries have rows, and which calls fail; the scripted engine answers from it and keeps a log of
everything that was done.

Loading rows is no elementary act of a scripted engine, and its catalog may be one that is asked in
SQL.  Such calls are carried out by programs of more elementary calls, which an `Expansion` gives.

## Main definitions

* `Event` — what the log records.
* `Script`, `FailRule`, `QueryRule` — the script.
* `Script.engine` — the scripted engine.
* `Expansion`, `Engine.expand` — calls that are carried out by programs.
-/

set_option autoImplicit false

namespace SqlDialects

open Text

/-! ## Events -/

/-- What is done to an engine, with the number of the connection. -/
inductive Event where
  | opened (connection : Nat) (database : Option String)
  | closed (connection : Nat)
  | executed (connection : Nat) (command : Command)
  | queried (connection : Nat) (command : Command)
  | begun (connection : Nat)
  | committed (connection : Nat)
  | rolledBack (connection : Nat)
  | databasesListed
  | databaseCreated (database : String)
  | databaseDropped (database : String)
  | tablesListed (database : String) (includeViews : Bool)
  | columnsDescribed (table : TableRef)
  | relationshipsListed (table : TableRef)
  | tableDropped (table : TableRef)
deriving DecidableEq, Repr, Inhabited

/-- The kinds of events. -/
inductive EventKind where
  | opened | closed | executed | queried | begun | committed | rolledBack | databasesListed
  | databaseCreated | databaseDropped | tablesListed | columnsDescribed | relationshipsListed
  | tableDropped
deriving DecidableEq, Repr, Inhabited

namespace EventKind

/-- All kinds of events. -/
def all : List EventKind :=
  [opened, closed, executed, queried, begun, committed, rolledBack, databasesListed,
    databaseCreated, databaseDropped, tablesListed, columnsDescribed, relationshipsListed,
    tableDropped]

/-- The name in documents. -/
def code : EventKind → String
  | opened => "open"
  | closed => "close"
  | executed => "exec"
  | queried => "query"
  | begun => "begin"
  | committed => "commit"
  | rolledBack => "rollback"
  | databasesListed => "list_databases"
  | databaseCreated => "create_database"
  | databaseDropped => "drop_database"
  | tablesListed => "list_tables"
  | columnsDescribed => "describe"
  | relationshipsListed => "relationships"
  | tableDropped => "drop_table"

end EventKind

namespace Event

/-- The kind of an event. -/
def kind : Event → EventKind
  | opened _ _ => .opened
  | closed _ => .closed
  | executed _ _ => .executed
  | queried _ _ => .queried
  | begun _ => .begun
  | committed _ => .committed
  | rolledBack _ => .rolledBack
  | databasesListed => .databasesListed
  | databaseCreated _ => .databaseCreated
  | databaseDropped _ => .databaseDropped
  | tablesListed _ _ => .tablesListed
  | columnsDescribed _ => .columnsDescribed
  | relationshipsListed _ => .relationshipsListed
  | tableDropped _ => .tableDropped

/-- The text that rules search: the statement, the database or the table. -/
def text : Event → String
  | executed _ command | queried _ command => command.text
  | opened _ database => database.getD ""
  | databaseCreated database | databaseDropped database | tablesListed database _ => database
  | columnsDescribed table | relationshipsListed table | tableDropped table => table.table
  | _ => ""

/-- The values that rules search. -/
def values : Event → List SqlValue
  | executed _ command | queried _ command => command.parameters.map Prod.snd
  | _ => []

end Event

/-! ## Scripts -/

/-- A rule that makes events fail. -/
structure FailRule where
  on : EventKind
  /-- What the text of the event has to contain. -/
  contains : String := ""
  /-- A value that has to be among those of the event. -/
  parameter : Option SqlValue := none
  /-- The count of matches that are let pass. -/
  skip : Nat := 0
  /-- The count of matches that fail. -/
  times : Nat := 1
  fault : SqlError

/-- A rule that gives queries their rows. -/
structure QueryRule where
  contains : String := ""
  parameter : Option SqlValue := none
  rows : List (List SqlValue) := []

/-- A table of the scripted catalog. -/
structure ScriptedTable where
  info : TableInfo
  columns : List ColumnInfo := []
  relationships : List Relationship := []

/-- What a scripted engine knows. -/
structure Script where
  databases : List String := []
  tables : List ScriptedTable := []
  failRules : List FailRule := []
  queryRules : List QueryRule := []
  /-- The count of rows that every statement affects. -/
  affected : Nat := 1
  /-- The count of connections that were asked for. -/
  connections : Nat := 0
  /-- What was done so far, the last event first. -/
  log : List Event := []

/-- Whether a text and values are those that a rule is about. -/
def matchesRule (part : String) (parameter : Option SqlValue) (text : String)
    (values : List SqlValue) : Bool :=
  contains part.toList text.toList &&
    match parameter with
    | some value => values.any value.same
    | none => true

/-- Whether the rule is about the event and not used up. -/
def FailRule.appliesTo (rule : FailRule) (event : Event) : Bool :=
  rule.on == event.kind && 0 < rule.times &&
    matchesRule rule.contains rule.parameter event.text event.values

/-- The first rule to fail an event decides; rules that let it pass for now use up a pass. -/
def failing (event : Event) : List FailRule → List FailRule × Option SqlError
  | [] => ([], none)
  | rule :: rest =>
    if rule.appliesTo event then
      if 0 < rule.skip then
        let (rest, fault) := failing event rest
        ({ rule with skip := rule.skip - 1 } :: rest, fault)
      else ({ rule with times := rule.times - 1 } :: rest, some rule.fault)
    else
      let (rest, fault) := failing event rest
      (rule :: rest, fault)

namespace Script

/-- Writes an event into the log. -/
def record (s : Script) (event : Event) : Script := { s with log := event :: s.log }

/-- Writes an event into the log, and answers unless a rule makes the event fail. -/
def answer {α : Type} (s : Script) (event : Event) (a : α) : Except SqlError α × Script :=
  let (failRules, fault) := failing event s.failRules
  let s := { s.record event with failRules }
  match fault with
  | some e => (.error e, s)
  | none => (.ok a, s)

/-- The rows of a query. -/
def rowsOf (s : Script) (command : Command) : List (List SqlValue) :=
  let rule := s.queryRules.find? fun rule =>
    matchesRule rule.contains rule.parameter command.text (command.parameters.map Prod.snd)
  (rule.map QueryRule.rows).getD []

/-- The first table of the name, whatever its case. -/
def table? (s : Script) (name : String) : Option ScriptedTable :=
  s.tables.find? fun table => sameName table.info.name name

/-- The tables that a listing shows. -/
def listed (s : Script) (includeViews : Bool) : List TableInfo :=
  (s.tables.map ScriptedTable.info).filter fun info => includeViews || info.tableType == .table

/-- Gives the first of the listed tables of the name other columns. -/
def replaceColumns (name : String) (columns : List ColumnInfo) :
    List ScriptedTable → List ScriptedTable
  | [] => []
  | table :: rest =>
    if sameName table.info.name name then { table with columns } :: rest
    else table :: replaceColumns name columns rest

/-- Gives the first table of the name other columns. -/
def withColumns (s : Script) (name : String) (columns : List ColumnInfo) : Script :=
  { s with tables := replaceColumns name columns s.tables }

/-- The engine that follows the script.  Rows cannot be loaded at once. -/
def engine : Engine Script where
  answer
    | .openConnection database, s =>
      let n := s.connections + 1
      { s with connections := n }.answer (.opened n database) ⟨n, database⟩
    | .close c, s => ((), s.record (.closed c.id))
    | .execute c command, s => s.answer (.executed c.id command) s.affected
    | .query c command, s => s.answer (.queried c.id command) (s.rowsOf command)
    | .beginTransaction c, s => s.answer (.begun c.id) ()
    | .commit c, s => s.answer (.committed c.id) ()
    | .rollback c, s => s.answer (.rolledBack c.id) ()
    | .listDatabases _, s => s.answer .databasesListed s.databases
    | .createDatabase _ database, s => s.answer (.databaseCreated database) ()
    | .dropDatabase _ database, s => s.answer (.databaseDropped database) ()
    | .listTables _ database includeViews, s =>
      s.answer (.tablesListed database includeViews) (s.listed includeViews)
    | .describeColumns _ table, s =>
      s.answer (.columnsDescribed table)
        (((s.table? table.table).map ScriptedTable.columns).getD [])
    | .listRelationships _ table, s =>
      s.answer (.relationshipsListed table)
        (((s.table? table.table).map ScriptedTable.relationships).getD [])
    | .dropTable _ table, s => s.answer (.tableDropped table) ()
    | .bulkInsert _ _, s => (.ok 0, s)
    | .investigate _ _ _, s => (.ok none, s)

end Script

/-! ## Compound calls -/

/-- The programs that carry out compound calls; elementary calls have none. -/
abbrev Expansion := (call : Call) → Option (Program call.Answer)

namespace Expansion

/-- Rows are inserted one by one, and nothing is said of the one at fault. -/
def plainRows : Expansion
  | .bulkInsert c b => some (insertRows c b b.rows).run
  | _ => none

/-- Rows are loaded as into SQLite. -/
def sqliteRows : Expansion
  | .bulkInsert c b => some (Sqlite.bulkInsert c b).run
  | .investigate c b _ => some (Sqlite.investigate c b).run
  | _ => none

/-- The catalog is that of SQLite, which neither creates nor drops databases. -/
def sqliteCatalog (tokens : TokenSource) : Expansion
  | .listDatabases c => some (Sqlite.listDatabases c).run
  | .createDatabase _ _ => some (.done (.error (Dialect.sqlite.refuses "CREATE DATABASE")))
  | .dropDatabase _ _ => some (.done (.error (Dialect.sqlite.refuses "DROP DATABASE")))
  | .listTables c database includeViews => some (Sqlite.listTables c database includeViews).run
  | .describeColumns c table => some (Sqlite.describeColumns c table).run
  | .listRelationships c table => some (Sqlite.listRelationships tokens c table).run
  | .dropTable c table => some (Sqlite.dropTable c table).run
  | _ => none

/-- The programs of the first expansion, and of the second where the first has none. -/
def orElse (x y : Expansion) : Expansion := fun call => (x call).or (y call)

end Expansion

/-- The engine that carries out compound calls by programs of its elementary ones. -/
def Engine.expand {σ : Type} (engine : Engine σ) (x : Expansion) : Engine σ where
  answer call s :=
    match x call with
    | none => engine.answer call s
    | some program =>
      let (answer, _, s) := program.run engine s
      (answer, s)

end SqlDialects
