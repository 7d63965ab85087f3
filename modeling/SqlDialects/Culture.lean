import SqlDialects.Error
import SqlDialects.Text.Ascii

/-!
# Cultures

A culture says in which order the numbers of a date stand when the date is written in digits.
-/

set_option autoImplicit false

namespace SqlDialects

open Text

/-- Which of the first two numbers of a date is the month. -/
inductive DateOrder where
  | monthFirst | dayFirst
deriving DecidableEq, Repr, Inhabited

/-- The name of the order. -/
def DateOrder.name : DateOrder → String
  | monthFirst => "month_first"
  | dayFirst => "day_first"

/-- The culture in which dates are read. -/
inductive Culture where
  | invariant | enUS | enGB
deriving DecidableEq, Repr, Inhabited

namespace Culture

/-- The name of the culture. -/
def name : Culture → String
  | invariant => "invariant"
  | enUS => "en-US"
  | enGB => "en-GB"

/-- The order in which the culture writes dates. -/
def dateOrder : Culture → DateOrder
  | invariant | enUS => .monthFirst
  | enGB => .dayFirst

/-- The culture of the given name, whatever its case; no name at all is the invariant one. -/
def ofName (text : String) : Except SqlError Culture :=
  match String.ofList (lower (trim text.toList)) with
  | "" | "invariant" => .ok invariant
  | "en-us" | "en_us" => .ok enUS
  | "en-gb" | "en_gb" => .ok enGB
  | other => .error (.config (.unknownCulture other))

end Culture

end SqlDialects
