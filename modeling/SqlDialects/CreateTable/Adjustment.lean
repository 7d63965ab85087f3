import SqlDialects.ColumnRequest

/-!
# Adjustments of the columns of a new table

The last change to the columns of a new table may be any function.  A `ColumnAdjustment` is the kind
of change that can be written down: columns go, get other names and types, and are added at the end.
Columns are told by their names before the change, exactly.

## Main definitions

* `ColumnAdjustment` — the change.
* `ColumnAdjustment.apply` — the columns after it.
-/

set_option autoImplicit false

namespace SqlDialects

/-- A change to the columns of a new table. -/
structure ColumnAdjustment where
  dropped : List String := []
  retyped : List (String × TypeRequest) := []
  renamed : List (String × String) := []
  /-- The columns that follow all others. -/
  added : List ColumnRequest := []
deriving DecidableEq, Repr, Inhabited

namespace ColumnAdjustment

/-- A column that stays, under its new name and of its new type. -/
def change (a : ColumnAdjustment) (c : ColumnRequest) : ColumnRequest :=
  let renamed := { c with name := (a.renamed.lookup c.name).getD c.name }
  match a.retyped.lookup c.name with
  | some r => { renamed with typeRequest := some r, explicitType := none }
  | none => renamed

/-- The columns after the change. -/
def apply (a : ColumnAdjustment) (columns : List ColumnRequest) : List ColumnRequest :=
  (columns.filter fun c => !a.dropped.contains c.name).map a.change ++ a.added

end ColumnAdjustment

end SqlDialects
