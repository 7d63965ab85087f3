import SqlDialects.Engine.Program
import SqlDialects.Text.Ascii
import SqlDialects.Text.Line

/-!
# Scripts in batches

A script is cut into batches at the lines that hold nothing but the separator, whatever its case.
A batch begins with its first line that is not blank and ends without white space; a batch without
such a line is none.

## Main definitions

* `splitBatches` — the batches of a script.
* `runBatches` — executes the batches of a script in order.
-/

set_option autoImplicit false

namespace SqlDialects

open Text

/-- The line that separates batches unless another one is set. -/
def defaultSeparator : String := "GO"

/-- A batch of a script. -/
structure Batch where
  /-- The line of the script on which the batch begins, counted from 1. -/
  line : Nat
  sql : String
deriving DecidableEq, Repr, Inhabited

/-- Whether a line is the separator. -/
def isSeparatorLine (separator : String) (line : Chars) : Bool :=
  lower (trim line) == lower separator.toList

/-- The batch that begins on the given line; its lines are given backwards. -/
def endBatch (line : Nat) (lines : List Chars) : Batch :=
  ⟨line, String.ofList (trimEnd (lines.reverse.flatMap fun l => l ++ ['\n']))⟩

/-- The batches from the line of the given number on.  `current` is the batch being read, with the
number of its first line and its lines backwards. -/
def batchesFrom (separator : String) :
    (number : Nat) → (current : Option (Nat × List Chars)) → List Chars → List Batch
  | _, _, [] => []
  | number, current, line :: rest =>
    if isSeparatorLine separator line then
      match current with
      | some (start, lines) => endBatch start lines :: batchesFrom separator (number + 1) none rest
      | none => batchesFrom separator (number + 1) none rest
    else
      match current with
      | some (start, lines) => batchesFrom separator (number + 1) (some (start, line :: lines)) rest
      | none =>
        -- blank lines belong to a batch only once it has begun
        if allBlank line then batchesFrom separator (number + 1) none rest
        else batchesFrom separator (number + 1) (some (number, [line])) rest

/-- The batches of a script.  The end of the script counts as a separator. -/
def splitBatches (script separator : String) : List Batch :=
  batchesFrom separator 1 none (lines script.toList ++ [separator.toList])

/-- Executes batches in order, up to the first that fails. -/
def executeBatches (c : Connection) (timeout : UInt32) : List Batch → Action (List BatchTiming)
  | [] => pure []
  | batch :: rest => do
    let _ ← Action.execute c { text := batch.sql, timeout }
    let timings ← executeBatches c timeout rest
    pure ({ line := batch.line } :: timings)

/-- Executes the batches of a script in order, up to the first that fails. -/
def runBatches (c : Connection) (script separator : String) (timeout : UInt32) :
    Action (List BatchTiming) :=
  executeBatches c timeout (splitBatches script separator)

end SqlDialects
