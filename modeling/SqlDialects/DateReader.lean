import SqlDialects.Calendar.Pattern
import SqlDialects.Culture

/-!
# Reading dates and times in loose notation

Dates in ISO notation always read the same.  Dates written in digits with slashes, dashes or points
depend on the order of day and month, which comes from a culture or is settled by a vote of sample
texts: a sample votes for the only order in which it can be a date.

## Main definitions

* `DateReader` — a culture and the order that dates are read in.
* `DateReader.ofSamples` — the reader whose order the samples have settled.
* `DateReader.readDateTime`, `readTime` — the date or time that a text means.
-/

set_option autoImplicit false

namespace SqlDialects

open Text

/-! ## Patterns -/

namespace DatePatterns

open PatternItem

/-- Hours, minutes and seconds on the clock of 24 hours, with a fraction. -/
def clock : Pattern := [hour24, mark ':', minute, mark ':', second, fraction]

/-- Hours and minutes on the clock of 24 hours. -/
def shortClock : Pattern := [hour24, mark ':', minute]

/-- Hours, minutes and seconds before or after noon. -/
def halfDayClock : Pattern := [hour12, mark ':', minute, mark ':', second, blank, halfDay]

/-- Hours and minutes before or after noon. -/
def shortHalfDayClock : Pattern := [hour12, mark ':', minute, blank, halfDay]

/-- Year, month and day with dashes. -/
def isoDay : Pattern := [year, mark '-', month, mark '-', day]

/-- The ISO notations of a day with a time. -/
def isoDateTimes : List Pattern :=
  [isoDay ++ blank :: clock,
    isoDay ++ mark 'T' :: clock,
    isoDay ++ mark 'T' :: clock ++ [mark 'Z'],
    isoDay ++ blank :: shortClock,
    isoDay ++ mark 'T' :: shortClock]

/-- The ISO notations of a day. -/
def isoDates : List Pattern := [isoDay, [year, month, day]]

/-- A day in digits with the given mark between its parts. -/
def digitDay (order : DateOrder) (c : Char) : Pattern :=
  match order with
  | .monthFirst => [month, mark c, day, mark c, year]
  | .dayFirst => [day, mark c, month, mark c, year]

/-- The notations of a day with a time that depend on the order. -/
def orderedDateTimes (order : DateOrder) : List Pattern :=
  [digitDay order '/' ++ blank :: clock,
    digitDay order '/' ++ blank :: shortClock,
    digitDay order '/' ++ blank :: halfDayClock,
    digitDay order '/' ++ blank :: shortHalfDayClock,
    digitDay order '-' ++ blank :: clock,
    digitDay order '.' ++ blank :: clock]

/-- The notations of a day that depend on the order. -/
def orderedDates (order : DateOrder) : List Pattern :=
  [digitDay order '/', digitDay order '-', digitDay order '.',
    match order with
    | .monthFirst => [monthName, blank, day, blank, year]
    | .dayFirst => [day, blank, monthName, blank, year]]

/-- The notations of a time of day. -/
def times : List Pattern := [clock, shortClock, halfDayClock, shortHalfDayClock]

end DatePatterns

/-! ## Settling the order -/

/-- The first two numbers of a date in digits.  A date whose first part has four bytes counts as
one that begins with the year. -/
def leadingNumbers (text : Chars) : Option (Nat × Nat) :=
  match splitAtChars (fun c => c = '/' || c = '-' || c = '.' || isBlank c) (trim text) with
  | first :: second :: _ =>
    if (String.ofList first).utf8ByteSize = 4 then none
    else
      match readUnsigned 4294967295 first, readUnsigned 4294967295 second with
      | some a, some b => some (a, b)
      | _, _ => none
  | _ => none

/-- The order for which a sample votes: a number above 12 is no month. -/
def orderVote (text : Chars) : Option DateOrder :=
  match leadingNumbers text with
  | some (a, b) =>
    if 12 < a && b ≤ 12 then some .dayFirst
    else if 12 < b && a ≤ 12 then some .monthFirst
    else none
  | none => none

/-- The order with the most votes; a tie leaves the fallback. -/
def settleOrder (samples : List String) (fallback : DateOrder) : DateOrder :=
  let votes := samples.map fun text => orderVote text.toList
  let dayFirst := votes.count (some .dayFirst)
  let monthFirst := votes.count (some .monthFirst)
  if monthFirst < dayFirst then .dayFirst
  else if dayFirst < monthFirst then .monthFirst
  else fallback

/-! ## Readers -/

/-- How dates are read. -/
structure DateReader where
  culture : Culture
  order : DateOrder
deriving DecidableEq, Repr, Inhabited

namespace DateReader

/-- The reader with the order of its culture. -/
def ofCulture (culture : Culture) : DateReader := ⟨culture, culture.dateOrder⟩

/-- The reader with the order that the samples settle. -/
def ofSamples (culture : Culture) (samples : List String) : DateReader :=
  ⟨culture, settleOrder samples culture.dateOrder⟩

/-- The date and time that a text means; a date alone means its midnight. -/
def readDateTime (reader : DateReader) (text : String) : Option DateTime :=
  let s := trim text.toList
  if s.isEmpty then none
  else
    match (DatePatterns.isoDateTimes ++ DatePatterns.orderedDateTimes reader.order).findSome?
        fun pattern => pattern.readDateTime s with
    | some dt => some dt
    | none =>
      ((DatePatterns.isoDates ++ DatePatterns.orderedDates reader.order).findSome?
        fun pattern => pattern.readDate s).map Date.atMidnight

/-- The time of day that a text means. -/
def readTime (text : String) : Option TimeOfDay :=
  DatePatterns.times.findSome? fun pattern => pattern.readTime (trim text.toList)

end DateReader

end SqlDialects
