import SqlDialects.Error
import SqlDialects.Text.Case

/-!
# Finding dialects by name

A `Directory` holds dialects under names of the caller's choice, whatever the case.  One that has
all dialects under all their names is at hand.

## Main definitions

* `Dialect.ofName` — the dialect that a name stands for.
* `Directory` — dialects by name.
-/

set_option autoImplicit false

namespace SqlDialects

open Text

/-- The dialect that a name stands for, whatever its case and the white space around it. -/
def Dialect.ofName (text : String) : Except SqlError Dialect :=
  let name := toLowerCase (trimmed text)
  match Dialect.ofAlias? name with
  | some dialect => .ok dialect
  | none => .error (.config (.unknownDialect name))

/-- Dialects under their names, which are in lower case. -/
structure Directory where
  entries : SortedPairs Dialect := []
deriving DecidableEq, Repr, Inhabited

namespace Directory

/-- Puts a dialect under a name, in place of the one that was there. -/
def register (d : Directory) (name : String) (dialect : Dialect) : Directory :=
  ⟨d.entries.insert (toLowerCase name) dialect⟩

/-- All dialects under all their names. -/
def standard : Directory :=
  Dialect.all.foldl
    (fun d dialect => dialect.aliases.foldl (fun d name => d.register name dialect) d) {}

/-- The dialect under a name. -/
def get? (d : Directory) (name : String) : Option Dialect :=
  d.entries.value? (toLowerCase (trimmed name))

/-- The dialect under a name that has to be there. -/
def require (d : Directory) (name : String) : Except SqlError Dialect :=
  match d.get? name with
  | some dialect => .ok dialect
  | none => .error (.config (.unregisteredDialect name))

/-- The names in alphabetical order. -/
def names (d : Directory) : List String := d.entries.map Prod.fst

/-- The directory as a line of text. -/
def describe (d : Directory) : String :=
  "DialectCatalog \x7b dialects: [" ++ ", ".intercalate (d.names.map quoted) ++ "] \x7d"

end Directory

end SqlDialects
