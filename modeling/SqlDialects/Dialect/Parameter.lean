import SqlDialects.Dialect.Style

/-!
# Parameters

A parameter is a mark followed by a plain name.  In a query it stands at the very start, or after
white space, an operator, a comma or an opening parenthesis, and its name ends where the word ends.

## Main definitions

* `QueryStyle.parametersIn` — the parameters of a query.
* `QueryStyle.parametersFor` — names for the parameters of a list of columns, all different.
-/

set_option autoImplicit false

namespace SqlDialects

open Text

/-! ## Finding parameters -/

/-- The characters that may stand before a parameter. -/
def beforeParameter (c : Char) : Bool :=
  isBlank c || c ∈ ['=', '<', '>', '!', '+', '-', '*', '/', '%', ',', '(']

/-- The parameter at the front of the text. -/
def parameterAt (mark : Char) : Chars → Option Chars
  | [] => none
  | c :: s =>
    let name := s.takeWhile isPlain
    if c = mark && !name.isEmpty && endsWord (s.dropWhile isPlain) then some (c :: name) else none

/-- The parameters of a text, from left to right.  `skip` counts the characters of the last
parameter that are still to be passed over. -/
def parametersFrom (mark : Char) : (skip : Nat) → (atStart : Bool) → Chars → List Chars
  | _, _, [] => []
  | skip + 1, _, _ :: s => parametersFrom mark skip false s
  | 0, atStart, c :: s =>
    match if atStart then parameterAt mark (c :: s) else none with
    | some name => name :: parametersFrom mark (name.length - 1) false s
    | none =>
      match if beforeParameter c then parameterAt mark s else none with
      | some name => name :: parametersFrom mark name.length false s
      | none => parametersFrom mark 0 false s

namespace QueryStyle

/-- Parameters are looked for after a colon in the styles that write them so, and after an at sign
in all others. -/
def searchedMark (style : QueryStyle) : Char := if style.parameterMark = ':' then ':' else '@'

/-- The parameters of a query, from left to right. -/
def parametersIn (style : QueryStyle) (query : String) : List String :=
  (parametersFrom style.searchedMark 0 true query.toList).map String.ofList

/-- The parameters of a query, each of them once, in alphabetical order. -/
def parameterNames (style : QueryStyle) (query : String) : List String :=
  ((style.parametersIn query).eraseDups).mergeSort fun a b => a ≤ b

/-! ## Naming parameters -/

/-- The parameter named after a column. -/
def parameterFor (style : QueryStyle) (column : String) : String :=
  String.ofList (style.parameterMark :: sensibleName column.toList)

/-- Adds underscores until the name is not among those in use; `fuel` bounds their number. -/
def makeUnused (used : List Chars) : (fuel : Nat) → Chars → Chars
  | 0, name => name
  | fuel + 1, name =>
    if lower name ∈ used then makeUnused used fuel (name ++ ['_']) else name

/-- The plain name for the column at the given place: its sensible name, or a name made of the
place if that is empty or in use. -/
def plainParameterName (used : List Chars) (index : Nat) (column : String) : Chars :=
  let sensible := sensibleName column.toList
  let name :=
    if sensible.isEmpty || lower sensible ∈ used then 'p' :: Nat.toDigits 10 index else sensible
  makeUnused used (used.length + 1) name

/-- Names for the columns from the given place on, none of which is in use, whatever its case. -/
def plainParameterNames : (used : List Chars) → (index : Nat) → List String → List Chars
  | _, _, [] => []
  | used, index, column :: columns =>
    let name := plainParameterName used index column
    name :: plainParameterNames (lower name :: used) (index + 1) columns

/-- Parameters for the columns, in order, pairwise different whatever their case. -/
def parametersFor (style : QueryStyle) (columns : List String) : List String :=
  (plainParameterNames [] 0 columns).map fun name => String.ofList (style.parameterMark :: name)

end QueryStyle

end SqlDialects
