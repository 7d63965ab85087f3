import SqlDialects.Dialect.Style
import SqlDialects.TypeName.Read

/-!
# Column requests

What a column to be created is to be like.  Its type is given as a request or by name, and a name
has precedence.
-/

set_option autoImplicit false

namespace SqlDialects

/-- The value that a column takes by default. -/
inductive ColumnDefault where
  | none | now | newGuid
deriving DecidableEq, Repr, Inhabited

namespace ColumnDefault

/-- The name in documents. -/
def code : ColumnDefault → String
  | none => "none"
  | now => "now"
  | newGuid => "new_guid"

/-- The function that is called for the default. -/
def function? : ColumnDefault → Option ScalarFunction
  | none => Option.none
  | now => some .now
  | newGuid => some .newGuid

end ColumnDefault

/-- A column to be created. -/
structure ColumnRequest where
  name : String
  typeRequest : Option TypeRequest := none
  /-- The type by name. -/
  explicitType : Option String := none
  nullable : Bool := true
  isPrimaryKey : Bool := false
  isAutoIncrement : Bool := false
  default : ColumnDefault := .none
  collation : Option String := none
deriving DecidableEq, Repr, Inhabited

namespace ColumnRequest

/-- A column of the requested type. -/
def ofType (name : String) (r : TypeRequest) : ColumnRequest := { name, typeRequest := some r }

/-- A column of the named type. -/
def ofName (name sqlType : String) : ColumnRequest := { name, explicitType := some sqlType }

/-- A column may be null if that is allowed and it does not belong to the primary key. -/
def mayBeNull (c : ColumnRequest) : Bool := c.nullable && !c.isPrimaryKey

/-- The request for the type of the column. -/
def resolve (c : ColumnRequest) (dialect : Dialect) : Except SqlError TypeRequest :=
  match c.explicitType, c.typeRequest with
  | some sqlType, _ => dialect.request sqlType
  | none, some r => .ok r
  | none, none => .error (.invalidArgument (.missingType c.name))

/-- The name of the type of the column. -/
def sqlType (c : ColumnRequest) (dialect : Dialect) : Except SqlError String :=
  match c.explicitType, c.typeRequest with
  | some sqlType, _ => .ok sqlType
  | none, some r => .ok (dialect.declare r)
  | none, none => .error (.invalidArgument (.missingType c.name))

/-- The name of the type of the column; nothing if the digits of a decimal cannot be counted. -/
def sqlType? (c : ColumnRequest) (dialect : Dialect) : Option (Except SqlError String) :=
  match c.explicitType, c.typeRequest with
  | none, some r => (dialect.declare? r).map .ok
  | _, _ => some (c.sqlType dialect)

end ColumnRequest

end SqlDialects
