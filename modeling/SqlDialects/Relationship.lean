import SqlDialects.Text.Blank
import SqlDialects.Text.Case

/-!
# Tables, views, and the keys between them

## Main definitions

* `TableType` — what an object with columns is.
* `CascadeRule` — what happens to rows whose referenced row is deleted.
* `Relationship` — a foreign key.
-/

set_option autoImplicit false

namespace SqlDialects

open Text

/-- An object with columns. -/
inductive TableType where
  | table | view | tableValuedFunction
deriving DecidableEq, Repr, Inhabited

namespace TableType

/-- The name in running text. -/
def label : TableType → String
  | table => "table"
  | view => "view"
  | tableValuedFunction => "table-valued function"

/-- The name in documents. -/
def code : TableType → String
  | table => "table"
  | view => "view"
  | tableValuedFunction => "table_valued_function"

end TableType

/-- What happens to rows when the row that they refer to is deleted. -/
inductive CascadeRule where
  | delete | noAction | setNull | setDefault | unknown
deriving DecidableEq, Repr, Inhabited

namespace CascadeRule

/-- The name in documents. -/
def code : CascadeRule → String
  | delete => "delete"
  | noAction => "no_action"
  | setNull => "set_null"
  | setDefault => "set_default"
  | unknown => "unknown"

/-- Reads the action of an `ON DELETE` clause. -/
def ofAction (action : String) : CascadeRule :=
  match toUpperCase (trimmed action) with
  | "CASCADE" => delete
  | "NO ACTION" | "RESTRICT" => noAction
  | "SET NULL" => setNull
  | "SET DEFAULT" => setDefault
  | _ => unknown

/-- The rule of a key that cascades, or of one that does not. -/
def ofCascade (cascade : Bool) : CascadeRule := if cascade then delete else noAction

end CascadeRule

/-- A foreign key from one table to another. -/
structure Relationship where
  name : String
  primaryTable : String
  foreignTable : String
  /-- Pairs of a primary and a foreign column, in the order of the key. -/
  keys : List (String × String) := []
  rule : CascadeRule
deriving DecidableEq, Repr, Inhabited

namespace Relationship

/-- The columns that are referred to. -/
def primaryColumns (r : Relationship) : List String := r.keys.map Prod.fst

/-- The columns that refer. -/
def foreignColumns (r : Relationship) : List String := r.keys.map Prod.snd

end Relationship

end SqlDialects
