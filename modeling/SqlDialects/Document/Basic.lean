import SqlDialects.Text.Integer

/-!
# Documents

A `Document` is data as it stands in JSON or YAML, before anything is known of what it should be.
The two differ where it matters to a reader: a scalar of YAML that is written without quotes may be
a text, a number or a truth value, as is expected of it, keys of YAML may be anything, and a record
of JSON may be written as an array, by the order of its members.

A scalar of YAML may have a tag.  The tag of a number or of a truth value lets a block of lines be
one, and that of nothing demands that nothing be written; where one of finitely many names is
expected, a tag that begins with an exclamation mark is the name.  In all other places tags do not
matter.

## Main definitions

* `Document` — the data.
* `Document.text?`, `name?`, `natural?`, `boolean?`, `optional?`, `items?` — the data read as it is
  expected to be.
* `Document.members?` — the members of a record.
-/

set_option autoImplicit false

namespace SqlDialects

open Text

/-- How a scalar of YAML is written. -/
inductive ScalarStyle where
  | plain
  /-- Between quotes. -/
  | quoted
  /-- As a block whose line ends stay. -/
  | literal
  /-- As a block whose lines are joined. -/
  | folded
deriving DecidableEq, Repr, Inhabited

/-- Data in JSON or YAML. -/
inductive Document where
  | null
  | boolean (b : Bool)
  | integer (n : Int)
  /-- A number that is not written as an integer. -/
  | fraction (numeral : String)
  | text (s : String)
  | array (items : List Document)
  | object (members : List (String × Document))
  /-- A scalar of YAML. -/
  | scalar (tag : Option String) (style : ScalarStyle) (s : String)
  /-- An array of YAML. -/
  | sequence (items : List Document)
  /-- An object of YAML. -/
  | mapping (members : List (Document × Document))
  /-- A node of YAML that holds itself, where it is met again.  Nothing that is expected is like
  this. -/
  | endless
deriving Repr, Inhabited

/-! ## Plain scalars -/

/-- The value of a numeral without a sign: in base 16, 8 or 2 after `0x`, `0o` or `0b`, and in base
10 otherwise, where there is no leading zero. -/
def readPlainDigits : Chars → Option Nat
  | '0' :: 'x' :: s => readInBase 16 s
  | '0' :: 'o' :: s => readInBase 8 s
  | '0' :: 'b' :: s => readInBase 2 s
  | '0' :: c :: s => if (c :: s).all Char.isDigit then none else readInBase 10 ('0' :: c :: s)
  | s => readInBase 10 s

/-- The value of an unsigned numeral, which may have a plus sign. -/
def readPlainNatural : Chars → Option Nat
  | '+' :: s => readPlainDigits s
  | s => readPlainDigits s

/-- The truth value that a plain scalar stands for. -/
def readPlainBoolean (s : String) : Option Bool :=
  if s ∈ ["true", "True", "TRUE"] then some true
  else if s ∈ ["false", "False", "FALSE"] then some false
  else none

/-- Whether a plain scalar is a word for nothing. -/
def isNullWord (s : String) : Bool := s ∈ ["~", "null", "Null", "NULL"]

/-! ## Tags -/

/-- What the tags of the standard types begin with. -/
def standardTags : String := "tag:yaml.org,2002:"

/-- Whether a tag is that of a standard type. -/
def isStandardTag (name : String) (tag : Option String) : Bool := tag == some (standardTags ++ name)

/-- Whether a scalar may be a number or a truth value: it is plain, or a block with the tag. -/
def mayBe (name : String) (tag : Option String) (style : ScalarStyle) : Bool :=
  style == .plain || (style == .literal && isStandardTag name tag)

/-- The name that a tag is, if it begins with an exclamation mark. -/
def nameInTag? (tag : Option String) : Option String :=
  tag.bind fun t => if t.startsWith "!" then some (t.drop 1).toString else none

/-! ## Expectations -/

/-- Whether the absence of a member of a record is allowed. -/
inductive Absence where
  | refused
  /-- The member may be missing where members are named, but not where they are told by their
  order. -/
  | allowedByName
  | allowed
deriving DecidableEq, Repr, Inhabited

namespace Document

/-- A text is expected. -/
def text? : Document → Option String
  | text s | scalar _ _ s => some s
  | _ => none

/-- One of finitely many names is expected.  In JSON it may also be the only member of an object,
with no value, and in YAML the tag of a scalar with nothing in it. -/
def name? : Document → Option String
  | text s => some s
  | object [(name, null)] => some name
  | scalar tag style s =>
    match nameInTag? tag with
    | some name => if style = .plain ∧ (s = "" ∨ isNullWord s) then some name else none
    | none => some s
  | _ => none

/-- A number from 0 up to a limit is expected. -/
def natural? (limit : Nat) : Document → Option Nat
  | integer n => if 0 ≤ n ∧ n ≤ limit then some n.toNat else none
  | scalar tag style s =>
    if mayBe "int" tag style then (readPlainNatural s.toList).filter (· ≤ limit) else none
  | _ => none

/-- A truth value is expected. -/
def boolean? : Document → Option Bool
  | boolean b => some b
  | scalar tag style s => if mayBe "bool" tag style then readPlainBoolean s else none
  | _ => none

/-- Nothing is allowed, and stands for the absence of a value.  A plain scalar with the tag of
nothing must be a word for it. -/
def optional? : Document → Option (Option Document)
  | null => some none
  | scalar none .plain s =>
    some (if s = "" ∨ isNullWord s then none else some (scalar none .plain s))
  | scalar (some tag) .plain s =>
    if isStandardTag "null" (some tag) then if isNullWord s then some none else none
    else some (some (scalar (some tag) .plain s))
  | d => some (some d)

/-- A list is expected.  A scalar of YAML that is left out altogether is an empty one. -/
def items? : Document → Option (List Document)
  | array items | sequence items => some items
  | scalar _ .plain "" => some []
  | _ => none

/-- The members of a record that are told by their order. -/
def membersByOrder : List (String × Absence) → List Document → Option (List (Option Document))
  | [], [] => some []
  | [], _ :: _ => none
  | (_, absence) :: names, [] =>
    if absence = .allowed then (membersByOrder names []).map (none :: ·) else none
  | _ :: names, d :: items => (membersByOrder names items).map (some d :: ·)

/-- The members of a record that are told by their names.  Members of other names do not matter, but
no member may occur twice. -/
def membersByName (given : List (String × Document)) :
    List (String × Absence) → Option (List (Option Document))
  | [] => some []
  | (name, absence) :: names =>
    match given.filter fun member => member.1 = name with
    | [] => if absence = .refused then none else (membersByName given names).map (none :: ·)
    | [member] => (membersByName given names).map (some member.2 :: ·)
    | _ => none

/-- A record with the given members is expected.  A scalar of YAML that is left out altogether is a
record without members. -/
def members? (names : List (String × Absence)) : Document → Option (List (Option Document))
  | object given => membersByName given names
  | mapping given => do
    membersByName (← given.mapM fun (key, d) => key.text?.map fun name => (name, d)) names
  | array items => membersByOrder names items
  | scalar _ .plain "" => membersByName [] names
  | _ => none

end Document

end SqlDialects
