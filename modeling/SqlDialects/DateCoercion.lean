import SqlDialects.DataSet
import SqlDialects.DateReader

/-!
# Turning text into dates

Columns of text that go to a date or time column are read as dates before they are loaded.  The
order of day and month is settled once for each column, from its own first texts.  A text that
cannot be read becomes null and is counted; blank text becomes null without being counted.

## Main definitions

* `coerceCell` — the value that a cell becomes.
* `coerceColumns` — all columns that go to date or time columns.
-/

set_option autoImplicit false

namespace SqlDialects

open Text

/-- The date or time that a text means, by the kind of its destination. -/
def readAs (reader : DateReader) (kind : TypeKind) (text : String) : Option SqlValue :=
  if kind = .timeSpan then (DateReader.readTime text).map SqlValue.time
  else (reader.readDateTime text).map SqlValue.dateTime

/-- The value that a cell becomes, and whether text was lost by it. -/
def coerceCell (reader : DateReader) (kind : TypeKind) : SqlValue → SqlValue × Bool
  | .text s =>
    if isBlankText s then (.null, false)
    else
      match readAs reader kind s with
      | some value => (value, false)
      | none => (.null, true)
  | value => (value, false)

/-- The first texts of a column that are not blank. -/
def sampleTexts (values : List SqlValue) (size : Nat) : List String :=
  ((values.filterMap SqlValue.text?).filter fun s => !isBlankText s).take size

/-- Reads a column of text as dates or times.  A column of another kind, or one that is not there,
stays as it is. -/
def coerceColumn (culture : Culture) (sampleSize : Nat) (data : DataSet) (index : Nat)
    (kind : TypeKind) : Except SqlError (DataSet × Nat) := do
  if !kind.isDateLike || !(data.columns[index]?).any DataColumn.isTextual then
    return (data, 0)
  -- a column is not changed in place but taken out and put back
  match data.removeColumn index with
  | none => return (data, 0)
  | some (column, values, rest) =>
    let reader := DateReader.ofSamples culture (sampleTexts values sampleSize)
    let cells := values.map (coerceCell reader kind)
    let replacement : DataColumn :=
      { name := column.name, kind := .typed kind, nullable := column.nullable }
    match ← rest.insertColumn index replacement (cells.map Prod.fst) with
    | none => return (data, 0)
    | some data => return (data, cells.countP Prod.snd)

/-- Reads every column of text that goes to a date or time column, as the targets say, and counts
the texts that were lost. -/
def coerceColumns (culture : Culture) (sampleSize : Nat) :
    DataSet → List (Nat × TypeKind) → Except SqlError (DataSet × Nat)
  | data, [] => .ok (data, 0)
  | data, (index, kind) :: targets => do
    let (data, lost) ← coerceColumn culture sampleSize data index kind
    let (data, more) ← coerceColumns culture sampleSize data targets
    return (data, lost + more)

end SqlDialects
