import SqlDialects.SortedPairs
import SqlDialects.TypeRequest

/-!
# Reports of table creation

What became known in the course of creating and loading a table.  The report is kept also when
loading the table fails, so that the statements that ran are not lost.
-/

set_option autoImplicit false

namespace SqlDialects

/-- One executed batch of a script.  The library itself has no clock: whoever runs the batches
with one fills in the time. -/
structure BatchTiming where
  /-- The line of the script on which the batch starts, counted from 1. -/
  line : Nat
  elapsedMs : Nat := 0
deriving DecidableEq, Repr, Inhabited

/-- What creating a table did. -/
structure CreateTableReport where
  table : String
  /-- The statement that was executed. -/
  sql : String
  /-- The type settled for each column of the data, by the name of the column. -/
  inferredTypes : SortedPairs TypeRequest := []
  batches : List BatchTiming := []
  rowsUploaded : Nat := 0
deriving DecidableEq, Repr, Inhabited

end SqlDialects
