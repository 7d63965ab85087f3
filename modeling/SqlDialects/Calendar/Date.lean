import SqlDialects.Text.Integer

/-!
# Days and times of day

Days are those of the Gregorian calendar, extended in both directions to a fixed range of years.
A time of day has nanoseconds, of which there may be a second or more too many: these belong to a
leap second.

## Main definitions

* `Date`, `TimeOfDay`, `DateTime` — values that are valid by construction.
* `Date.render`, `TimeOfDay.render` — the ISO text of a value.
-/

set_option autoImplicit false

namespace SqlDialects

open Text

/-! ## Days -/

/-- The Gregorian rule for leap years. -/
def isLeapYear (year : Int) : Bool := year % 4 == 0 && (year % 100 != 0 || year % 400 == 0)

/-- The length of a month, 0 if there is no such month. -/
def daysInMonth (year : Int) (month : Nat) : Nat :=
  if month = 2 then (if isLeapYear year then 29 else 28)
  else if month = 4 ∨ month = 6 ∨ month = 9 ∨ month = 11 then 30
  else if 1 ≤ month ∧ month ≤ 12 then 31
  else 0

/-- A day of the calendar. -/
structure Date where
  year : Int
  month : Nat
  day : Nat
  year_mem : -262143 ≤ year ∧ year ≤ 262142
  day_mem : 1 ≤ day ∧ day ≤ daysInMonth year month
deriving DecidableEq, Repr

namespace Date

instance : Inhabited Date := ⟨⟨1970, 1, 1, by decide, by decide⟩⟩

/-- The day with the given parts, if there is one. -/
def ofParts? (year : Int) (month day : Nat) : Option Date :=
  if h : (-262143 ≤ year ∧ year ≤ 262142) ∧ 1 ≤ day ∧ day ≤ daysInMonth year month then
    some ⟨year, month, day, h.1, h.2⟩
  else none

end Date

/-! ## Times of day -/

/-- A time of day.  Nanoseconds from a whole second on are those of a leap second behind the second,
which should be the last of its minute but may be any. -/
structure TimeOfDay where
  hour : Nat
  minute : Nat
  second : Nat
  nano : Nat
  hour_lt : hour < 24
  minute_lt : minute < 60
  second_lt : second < 60
  nano_lt : nano < 2000000000
deriving DecidableEq, Repr

namespace TimeOfDay

/-- The start of the day. -/
def midnight : TimeOfDay := ⟨0, 0, 0, 0, by decide, by decide, by decide, by decide⟩

instance : Inhabited TimeOfDay := ⟨midnight⟩

/-- The time that is written with the given parts, if there is one.  A second of 60 is the leap
second of its minute. -/
def ofParts? (hour minute second nano : Nat) : Option TimeOfDay :=
  if h : hour < 24 ∧ minute < 60 ∧ second ≤ 60 ∧ nano < 1000000000 then
    some ⟨hour, minute, min second 59, nano + second / 60 * 1000000000, h.1, h.2.1, by omega,
      by omega⟩
  else none

end TimeOfDay

/-- A day and a time on it. -/
structure DateTime where
  date : Date
  time : TimeOfDay
deriving DecidableEq, Repr, Inhabited

/-- The start of a day. -/
def Date.atMidnight (d : Date) : DateTime := ⟨d, TimeOfDay.midnight⟩

/-! ## Text -/

/-- A number in at least `width` digits. -/
def padded (width n : Nat) : Chars :=
  let digits := Nat.toDigits 10 n
  List.replicate (width - digits.length) '0' ++ digits

/-- Years from 0 to 9999 have four digits; all others have a sign and at least four. -/
def renderYear (year : Int) : Chars :=
  if 0 ≤ year ∧ year ≤ 9999 then padded 4 year.toNat
  else (if year < 0 then '-' else '+') :: padded 4 year.natAbs

/-- `YYYY-MM-DD`. -/
def Date.render (d : Date) : Chars :=
  renderYear d.year ++ '-' :: padded 2 d.month ++ '-' :: padded 2 d.day

/-- Nothing for whole seconds, otherwise 3, 6 or 9 digits, as few as are exact. -/
def renderFraction (nano : Nat) : Chars :=
  if nano = 0 then []
  else if nano % 1000000 = 0 then '.' :: padded 3 (nano / 1000000)
  else if nano % 1000 = 0 then '.' :: padded 6 (nano / 1000)
  else '.' :: padded 9 nano

/-- `HH:MM:SS` with the fraction of the second.  A leap second counts as one more. -/
def TimeOfDay.render (t : TimeOfDay) : Chars :=
  padded 2 t.hour ++ ':' :: padded 2 t.minute ++
    ':' :: padded 2 (t.second + t.nano / 1000000000) ++ renderFraction (t.nano % 1000000000)

/-- The day, a separating character, and the time. -/
def DateTime.renderWith (separator : Char) (dt : DateTime) : Chars :=
  dt.date.render ++ separator :: dt.time.render

/-- `YYYY-MM-DD HH:MM:SS` with the fraction of the second. -/
def DateTime.render (dt : DateTime) : Chars := dt.renderWith ' '

end SqlDialects
