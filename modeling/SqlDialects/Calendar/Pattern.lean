import SqlDialects.Calendar.Date
import SqlDialects.Text.Ascii

/-!
# Reading dates by a pattern

A pattern is a list of items, each of which takes the characters of its field from the front of a
text.  Numbers may have fewer digits than their field and white space before them, a blank of the
pattern stands for any amount of white space, and names ignore case.  A text matches a pattern if
the items take all of it and the fields make up a valid value.

## Main definitions

* `PatternItem`, `Pattern` — patterns as data.
* `Fields` — what has been read.
* `Pattern.readDate`, `readTime`, `readDateTime` — reading a whole text.
-/

set_option autoImplicit false

namespace SqlDialects

open Text

/-! ## Patterns -/

/-- One item of a pattern. -/
inductive PatternItem where
  /-- Up to four digits; any number of them after a sign. -/
  | year
  | month | day
  /-- A short or a long English name of a month. -/
  | monthName
  | hour24
  /-- An hour from 1 to 12. -/
  | hour12
  | minute | second
  /-- A point and digits, of which nine count; may be missing altogether. -/
  | fraction
  /-- AM or PM. -/
  | halfDay
  | blank
  | mark (c : Char)
deriving DecidableEq, Repr, Inhabited

/-- The items of a text, in order. -/
abbrev Pattern := List PatternItem

/-- The fields read so far. -/
structure Fields where
  year : Option Int := none
  month : Option Nat := none
  day : Option Nat := none
  hour24 : Option Nat := none
  hour12 : Option Nat := none
  afternoon : Option Bool := none
  minute : Option Nat := none
  second : Option Nat := none
  nano : Option Nat := none
deriving DecidableEq, Repr, Inhabited

/-! ## Fields -/

/-- The longest run of digits at the front, at most `width` of them. -/
def takeDigits : (width : Nat) → Chars → Chars × Chars
  | 0, s => ([], s)
  | _, [] => ([], [])
  | width + 1, c :: s =>
    if c.isDigit then
      let (digits, rest) := takeDigits width s
      (c :: digits, rest)
    else ([], c :: s)

/-- A number of one to `width` digits. -/
def takeNumber (width : Nat) (s : Chars) : Option (Nat × Chars) :=
  let (digits, rest) := takeDigits width s
  (readNat digits).map fun n => (n, rest)

/-- A number after any white space. -/
def takeField (width : Nat) (s : Chars) : Option (Nat × Chars) := takeNumber width (trimStart s)

/-- A year after any white space. -/
def takeYear (s : Chars) : Option (Int × Chars) :=
  match trimStart s with
  | '-' :: rest => (takeNumber rest.length rest).map fun (n, rest) => (-(n : Int), rest)
  | '+' :: rest => (takeNumber rest.length rest).map fun (n, rest) => ((n : Int), rest)
  | rest => (takeNumber 4 rest).map fun (n, rest) => ((n : Int), rest)

/-- The names of the months: what is always written, and what a long name adds to it. -/
def monthNames : List (String × String) :=
  [("jan", "uary"), ("feb", "ruary"), ("mar", "ch"), ("apr", "il"), ("may", ""), ("jun", "e"),
    ("jul", "y"), ("aug", "ust"), ("sep", "tember"), ("oct", "ober"), ("nov", "ember"),
    ("dec", "ember")]

/-- What follows `start` at the front of the text, whatever its case. -/
def afterIgnoringCase? (start : String) (s : Chars) : Option Chars :=
  if lower (s.take start.length) = start.toList then some (s.drop start.length) else none

/-- The month whose name stands at the front. -/
def takeMonthName (s : Chars) : Option (Nat × Chars) :=
  monthNames.zipIdx.findSome? fun ((short, ending), i) =>
    (afterIgnoringCase? short s).map fun rest =>
      (i + 1, (afterIgnoringCase? ending rest).getD rest)

/-- The nanoseconds of a fraction that may be missing. -/
def takeFraction : Chars → Option (Nat × Chars)
  | '.' :: s =>
    let (digits, rest) := takeDigits 9 s
    -- digits beyond nanoseconds are passed over
    (readNat digits).map fun n => (n * Nat.pow 10 (9 - digits.length), rest.dropWhile Char.isDigit)
  | s => some (0, s)

/-- Whether the front says afternoon. -/
def takeHalfDay (s : Chars) : Option (Bool × Chars) :=
  match afterIgnoringCase? "am" s, afterIgnoringCase? "pm" s with
  | some rest, _ => some (false, rest)
  | none, some rest => some (true, rest)
  | none, none => none

/-! ## Reading -/

/-- Reads one item. -/
def PatternItem.take (item : PatternItem) (fields : Fields) (s : Chars) : Option (Fields × Chars) :=
  match item with
  | .year => (takeYear s).map fun (n, rest) => ({ fields with year := some n }, rest)
  | .month => (takeField 2 s).map fun (n, rest) => ({ fields with month := some n }, rest)
  | .day => (takeField 2 s).map fun (n, rest) => ({ fields with day := some n }, rest)
  | .monthName => (takeMonthName s).map fun (n, rest) => ({ fields with month := some n }, rest)
  | .hour24 => (takeField 2 s).map fun (n, rest) => ({ fields with hour24 := some n }, rest)
  | .hour12 => (takeField 2 s).map fun (n, rest) => ({ fields with hour12 := some n }, rest)
  | .minute => (takeField 2 s).map fun (n, rest) => ({ fields with minute := some n }, rest)
  | .second => (takeField 2 s).map fun (n, rest) => ({ fields with second := some n }, rest)
  | .fraction => (takeFraction s).map fun (n, rest) => ({ fields with nano := some n }, rest)
  | .halfDay => (takeHalfDay s).map fun (b, rest) => ({ fields with afternoon := some b }, rest)
  | .blank => some (fields, trimStart s)
  | .mark c => (after? [c] s).map fun rest => (fields, rest)

/-- Reads all items; nothing may be left over. -/
def Pattern.readFields : Pattern → Fields → Chars → Option Fields
  | [], fields, s => if s.isEmpty then some fields else none
  | item :: items, fields, s =>
    (item.take fields s).bind fun (fields, rest) => Pattern.readFields items fields rest

/-- The day that the fields name. -/
def Fields.date? (f : Fields) : Option Date :=
  match f.year, f.month, f.day with
  | some year, some month, some day => Date.ofParts? year month day
  | _, _, _ => none

/-- The hour of the day, from either clock. -/
def Fields.hour? (f : Fields) : Option Nat :=
  match f.hour24, f.hour12, f.afternoon with
  | some h, _, _ => some h
  | none, some h, some afternoon =>
    if 1 ≤ h ∧ h ≤ 12 then some (h % 12 + if afternoon then 12 else 0) else none
  | _, _, _ => none

/-- The time that the fields name; seconds may be missing. -/
def Fields.time? (f : Fields) : Option TimeOfDay :=
  match f.hour?, f.minute with
  | some hour, some minute => TimeOfDay.ofParts? hour minute (f.second.getD 0) (f.nano.getD 0)
  | _, _ => none

/-- The day that a text names. -/
def Pattern.readDate (p : Pattern) (s : Chars) : Option Date :=
  (Pattern.readFields p {} s).bind Fields.date?

/-- The time of day that a text names. -/
def Pattern.readTime (p : Pattern) (s : Chars) : Option TimeOfDay :=
  (Pattern.readFields p {} s).bind Fields.time?

/-- The day and time that a text names. -/
def Pattern.readDateTime (p : Pattern) (s : Chars) : Option DateTime :=
  (Pattern.readFields p {} s).bind fun fields =>
    match fields.date?, fields.time? with
    | some date, some time => some ⟨date, time⟩
    | _, _ => none

end SqlDialects
