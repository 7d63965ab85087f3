import SqlDialects.Text.Ascii
import SqlDialects.Text.Integer
import SqlDialects.Text.Word

/-!
# Spelling of type names

The same column type is spelled in many ways.  Type names are compared in a canonical spelling, in
lower case and with single blanks, and the numbers in parentheses are read as a qualifier.

## Main definitions

* `canonicalName` — the canonical spelling.
* `Qualifier`, `qualifierOf` — the numbers that a type is declared with.
-/

set_option autoImplicit false

namespace SqlDialects

open Text

/-- The type name in lower case, with single blanks between its words and none around them. -/
def canonicalName (sqlType : String) : Chars :=
  lower ([' '].intercalate (words sqlType.toList))

/-- What stands between the parentheses of a type name. -/
structure Qualifier where
  /-- The width or precision, where it is a number that can be read. -/
  first : Option Int := none
  /-- The scale, likewise. -/
  second : Option Int := none
  /-- The word `max` stands in place of the first number. -/
  isMax : Bool := false
deriving DecidableEq, Repr, Inhabited

/-- A numeral at the front of the text, in the digits of any script. -/
def takeNumeral (s : Chars) : Option (Chars × Chars) :=
  let digits := s.takeWhile isAnyDigit
  if digits.isEmpty then none else some (digits, s.dropWhile isAnyDigit)

/-- The unit of a width says what is counted, and is of no account here. -/
def dropUnit (s : Chars) : Chars :=
  match (after? "byte".toList s).or (after? "char".toList s) with
  | some rest => trimStart rest
  | none => s

/-- The second number, after its comma, if there is a comma. -/
def takeSecond (s : Chars) : Option (Option Chars × Chars) :=
  match s with
  | ',' :: rest => (takeNumeral (trimStart rest)).map fun (digits, rest) =>
    (some digits, trimStart rest)
  | _ => some (none, s)

/-- The qualifier whose content begins here, just after its opening parenthesis. -/
def qualifierAt (s : Chars) : Option Qualifier := do
  let s := trimStart s
  let (first, isMax, rest) ← match takeNumeral s with
    | some (digits, rest) => some (readInt64 digits, false, rest)
    | none => (after? "max".toList s).map fun rest => (none, true, rest)
  let (second, rest) ← takeSecond (dropUnit (trimStart rest))
  if rest.head? = some ')' then some ⟨first, second.bind readInt64, isMax⟩ else none

/-- The first qualifier in a canonical name. -/
def firstQualifier : Chars → Option Qualifier
  | [] => none
  | c :: s => (if c = '(' then qualifierAt s else none).or (firstQualifier s)

/-- The qualifier of a type name; an empty one if it has none. -/
def qualifierOf (sqlType : String) : Qualifier :=
  (firstQualifier (canonicalName sqlType)).getD {}

end SqlDialects
