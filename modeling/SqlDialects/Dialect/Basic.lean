/-!
# The SQL dialects

The five engines whose SQL this library knows how to write and to read.
-/

set_option autoImplicit false

namespace SqlDialects

/-- A database engine, and with it a dialect of SQL. -/
inductive Dialect where
  | mssql | mysql | postgres | oracle | sqlite
deriving DecidableEq, Repr, Inhabited

namespace Dialect

/-- All dialects, in the order of their declaration. -/
def all : List Dialect := [mssql, mysql, postgres, oracle, sqlite]

/-- The name of the dialect. -/
def name : Dialect → String
  | mssql => "mssql"
  | mysql => "mysql"
  | postgres => "postgres"
  | oracle => "oracle"
  | sqlite => "sqlite"

/-- The name of the dialect with a capital letter. -/
def title : Dialect → String
  | mssql => "Mssql"
  | mysql => "Mysql"
  | postgres => "Postgres"
  | oracle => "Oracle"
  | sqlite => "Sqlite"

/-- The dialect as a line of text. -/
def describe (dialect : Dialect) : String :=
  "Dialect \x7b database_type: " ++ dialect.title ++ " \x7d"

/-- The names under which a dialect is known, its own name first. -/
def aliases : Dialect → List String
  | mssql => ["mssql", "sqlserver", "sql_server"]
  | mysql => ["mysql", "mariadb"]
  | postgres => ["postgres", "postgresql", "pg"]
  | oracle => ["oracle"]
  | sqlite => ["sqlite", "sqlite3"]

/-- The dialect that a name in lower case stands for. -/
def ofAlias? (name : String) : Option Dialect := all.find? fun dialect => name ∈ dialect.aliases

end Dialect

end SqlDialects
