import SqlDialects.Document.Basic

/-!
# Fields of loose objects

An object whose members may all be missing is read member by member.  A member that is null counts
as missing, and so does one that holds something else than is asked for.

## Main definitions

* `Document.field?`, `Document.field` — a member.
* `textField`, `flag`, `integerField?`, `naturalField?`, `listField`, `textsField` — a member with
  what it should hold.
-/

set_option autoImplicit false

namespace SqlDialects.Document

/-- The members of an object. -/
def members : Document → List (String × Document)
  | object given => given
  | _ => []

/-- The member of a name, which may be null. -/
def member? (d : Document) (name : String) : Option Document := d.members.lookup name

/-- The member of a name that is not null. -/
def field? (d : Document) (name : String) : Option Document :=
  ((d.member? name).bind optional?).join

/-- The member of a name, null if it is missing. -/
def field (d : Document) (name : String) : Document := (d.field? name).getD null

/-- A text. -/
def textField? (d : Document) (name : String) : Option String := (d.field? name).bind text?

/-- A text, empty if it is missing. -/
def textField (d : Document) (name : String) : String := (d.textField? name).getD ""

/-- Whether a member holds the truth value `true`. -/
def flag (d : Document) (name : String) : Bool := (d.field? name).bind boolean? == some true

/-- The integer that a document is. -/
def integer? : Document → Option Int
  | integer n => some n
  | _ => none

/-- An integer. -/
def integerField? (d : Document) (name : String) : Option Int := (d.field? name).bind integer?

/-- A count. -/
def naturalField? (d : Document) (name : String) : Option Nat :=
  (d.integerField? name).map Int.toNat

/-- A word of 32 bits. -/
def wordField? (d : Document) (name : String) : Option UInt32 :=
  (d.naturalField? name).map UInt32.ofNat

/-- The items of a list. -/
def items (d : Document) : List Document := d.items?.getD []

/-- A list, empty if it is missing. -/
def listField (d : Document) (name : String) : List Document := (d.field name).items

/-- The texts in a list. -/
def textsField (d : Document) (name : String) : List String :=
  (d.listField name).filterMap text?

/-- Texts by their names. -/
def namedTexts (d : Document) (name : String) : List (String × String) :=
  (d.field name).members.filterMap fun (name, v) => v.text?.map fun s => (name, s)

end SqlDialects.Document
