import SqlDialects.Error
import SqlDialects.Text.Ascii

/-!
# Mapping columns by name

Columns of the input are matched to columns of the destination by name, whatever the case.  If
several columns of the destination differ only by case, the one that is spelled exactly alike is
meant.

## Main definitions

* `Resolution`, `resolveName` — what a single name resolves to.
* `ColumnMapping`, `mapColumns` — the mapping of all columns of an input.
-/

set_option autoImplicit false

namespace SqlDialects

open Text

/-- What the name of an input column resolves to. -/
inductive Resolution where
  | unmatched
  /-- Several columns of the destination match, and none of them exactly. -/
  | ambiguous
  /-- The place of the matching column of the destination. -/
  | column (index : Nat)
deriving DecidableEq, Repr, Inhabited

/-- The places of the columns of the destination that match a name. -/
def matchingColumns (destination : List String) (name : String) : List Nat :=
  (List.range destination.length).filter fun i => (destination[i]?).any fun d => sameName d name

/-- Resolves a name. -/
def resolveName (destination : List String) (name : String) : Resolution :=
  match matchingColumns destination name with
  | [] => .unmatched
  | [only] => .column only
  | several =>
    match several.find? fun i => destination[i]? == some name with
    | some exactly => .column exactly
    | none => .ambiguous

/-- How the columns of an input go to the columns of a destination. -/
structure ColumnMapping where
  /-- Places in the input and in the destination, in the order of the input. -/
  pairs : List (Nat × Nat) := []
  /-- The columns of the input that are left out. -/
  unmatchedInput : List String := []
  /-- The columns of the destination that nothing goes to. -/
  unmatchedDestination : List String := []
deriving DecidableEq, Repr, Inhabited

namespace ColumnMapping

/-- Where a column of the input goes. -/
def destinationOf (m : ColumnMapping) (input : Nat) : Option Nat :=
  (m.pairs.find? fun pair => pair.1 = input).map Prod.snd

end ColumnMapping

/-- Adds the column of the input at the given place to the mapping. -/
def addInput (destination : List String) (table : String) (allowUnmatched : Bool)
    (m : ColumnMapping) (index : Nat) (name : String) : Except SqlError ColumnMapping :=
  match resolveName destination name with
  | .ambiguous => .error (.invalidArgument (.ambiguousColumn name table))
  | .column d =>
    if m.pairs.any fun pair => pair.2 = d then
      .error (.invalidArgument (.columnTakenTwice (destination.getD d "") table))
    else .ok { m with pairs := m.pairs ++ [(index, d)] }
  | .unmatched =>
    if allowUnmatched then .ok { m with unmatchedInput := m.unmatchedInput ++ [name] }
    else .error (.columnMapping name table)

/-- Adds the columns of the input from the given place on. -/
def addInputs (destination : List String) (table : String) (allowUnmatched : Bool) :
    ColumnMapping → (index : Nat) → List String → Except SqlError ColumnMapping
  | m, _, [] => .ok m
  | m, index, name :: names =>
    match addInput destination table allowUnmatched m index name with
    | .error e => .error e
    | .ok m => addInputs destination table allowUnmatched m (index + 1) names

/-- Maps the columns of an input to those of a destination, where no column may receive two.  The
first column of the input at fault decides the error. -/
def mapColumns (input destination : List String) (table : String) (allowUnmatched : Bool) :
    Except SqlError ColumnMapping :=
  (addInputs destination table allowUnmatched {} 0 input).map fun m =>
    { m with
      unmatchedDestination := ((List.range destination.length).filter fun i =>
        !m.pairs.any fun pair => pair.2 = i).filterMap fun i => destination[i]? }

end SqlDialects
