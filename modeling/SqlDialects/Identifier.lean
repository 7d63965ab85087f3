import SqlDialects.Error
import SqlDialects.Text.Ascii

/-!
# Names of objects

Names of databases, tables and columns become part of statements, so they are checked before they
are used.  Names of constraints are not quoted in statements and are made of plain letters.

## Main definitions

* `checkIdentifier`, `checkName` — what a name must not be.
* `sensibleName` — a plain identifier spelled like a given text.
* `NameToken` — what stands in for a name of which nothing is left.
* `primaryKeyName`, `foreignKeyName` — the names of constraints.
-/

set_option autoImplicit false

namespace SqlDialects

open Text

/-! ## Checks -/

/-- A name is neither blank nor does it hold a null character. -/
def checkIdentifier (name : String) : Except NamingFault Unit :=
  if isBlankText name then .error .blank
  else if '\x00' ∈ name.toList then .error (.nullCharacter name)
  else .ok ()

/-- The characters that no object may have in its name. -/
def illegalNameCharacters : List Char := ['.', '(', ')']

/-- The name of an object is an identifier of at most `limit` characters, none of them illegal. -/
def checkName (object : ObjectKind) (name : String) (limit : Nat) : Except NamingFault Unit :=
  match checkIdentifier name with
  | .error reason => .error (.noIdentifier object reason)
  | .ok () =>
    if limit < name.toList.length then .error (.tooLong object name name.toList.length limit)
    else
      match name.toList.find? (· ∈ illegalNameCharacters) with
      | some c => .error (.illegalCharacter object name c)
      | none => .ok ()

/-! ## Plain names -/

/-- An ASCII letter, an ASCII digit or an underscore. -/
def isPlain (c : Char) : Bool := c.isAlphanum || c == '_'

/-- Takes out the blanks and raises the letter after each. -/
def joinWords : (raise : Bool) → Chars → Chars
  | _, [] => []
  | raise, c :: s =>
    if c = ' ' then joinWords true s
    else (if raise then c.toUpper else c) :: joinWords false s

/-- A name does not begin with a digit. -/
def guardDigit : Chars → Chars
  | [] => []
  | c :: s => if c.isDigit then '_' :: c :: s else c :: s

/-- A plain identifier spelled like the text: other characters are left out, words are joined with
a capital letter, and an underscore stands before a leading digit.  Nothing may be left. -/
def sensibleName (text : Chars) : Chars :=
  guardDigit (joinWords false (trim (text.filter fun c => isPlain c || c == ' ')))

/-! ## Constraints -/

/-- Plain characters that stand in for a name of which nothing is left.  They are drawn at random,
so nothing is said about which they are. -/
structure NameToken where
  text : Chars
  plain : ∀ c ∈ text, isPlain c = true

instance : Inhabited NameToken where
  default := {
    text := List.replicate 8 '0'
    plain := by
      intro c hc
      rw [List.eq_of_mem_replicate hc]
      rfl }

/-- The tokens that an operation draws, one after the other. -/
abbrev TokenSource := Nat → NameToken

/-- The sensible name; a text of which nothing is left gets a name that ends in the token. -/
def constraintWordOf (token : Chars) (name : String) : String :=
  let sensible := sensibleName name.toList
  if sensible.isEmpty then "Constraint" ++ String.ofList token
  else String.ofList sensible

/-- The name of the primary key of a table. -/
def primaryKeyName (token : NameToken) (table : String) : String :=
  "PK_" ++ constraintWordOf token.text table

/-- The name of a foreign key from one table to another, with a token for either. -/
def foreignKeyName (token other : NameToken) (foreignTable primaryTable : String) : String :=
  "FK_" ++ constraintWordOf token.text foreignTable ++ "_" ++
    constraintWordOf other.text primaryTable

end SqlDialects
