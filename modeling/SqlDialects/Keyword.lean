import SqlDialects.Dialect.Basic
import SqlDialects.Text.Ascii

/-!
# Connection keywords

Settings of a connection come from several sides, and the one with the highest priority prevails.
Among equals the first stays.  Nothing is ever removed.

## Main definitions

* `Keyword`, `KeywordSet` — settings in the order of their first appearance.
* `KeywordSet.add`, `merge` — further settings.
* `KeywordRegistry` — a set for each dialect.
-/

set_option autoImplicit false

namespace SqlDialects

open Text

/-- Who has made a setting, from the weakest to the strongest. -/
inductive KeywordPriority where
  | systemDefaultLow | systemDefaultMedium | systemDefaultHigh | apiRule | objectOverride
deriving DecidableEq, Repr, Inhabited

namespace KeywordPriority

/-- All priorities, from the weakest to the strongest. -/
def all : List KeywordPriority :=
  [systemDefaultLow, systemDefaultMedium, systemDefaultHigh, apiRule, objectOverride]

/-- The strength of a priority. -/
def rank : KeywordPriority → Nat
  | systemDefaultLow => 0
  | systemDefaultMedium => 1
  | systemDefaultHigh => 2
  | apiRule => 3
  | objectOverride => 4

/-- The name in documents. -/
def code : KeywordPriority → String
  | systemDefaultLow => "system_default_low"
  | systemDefaultMedium => "system_default_medium"
  | systemDefaultHigh => "system_default_high"
  | apiRule => "api_rule"
  | objectOverride => "object_override"

end KeywordPriority

/-- A setting. -/
structure Keyword where
  name : String
  value : String
  priority : KeywordPriority
deriving DecidableEq, Repr, Inhabited

/-- Settings in the order in which their names first appeared. -/
abbrev KeywordSet := List Keyword

namespace KeywordSet

/-- The setting of a name, whatever its case. -/
def get? (name : String) (set : KeywordSet) : Option Keyword :=
  List.find? (fun k => sameName k.name name) set

/-- Adds a setting.  An earlier one of the same name keeps its place and its spelling, and gives
way to a stronger one only. -/
def add (k : Keyword) : KeywordSet → KeywordSet
  | [] => [k]
  | old :: rest =>
    if sameName old.name k.name then
      if old.priority.rank < k.priority.rank then
        { old with value := k.value, priority := k.priority } :: rest
      else old :: rest
    else old :: add k rest

/-- Whether adding a setting changes the set. -/
def takesEffect (k : Keyword) (set : KeywordSet) : Bool :=
  match set.get? k.name with
  | some old => old.priority.rank < k.priority.rank
  | none => true

/-- Adds all settings of another set. -/
def merge (set other : KeywordSet) : KeywordSet := other.foldl (fun set k => set.add k) set

end KeywordSet

/-- The settings of each dialect. -/
structure KeywordRegistry where
  keywords : Dialect → KeywordSet := fun _ => []

namespace KeywordRegistry

/-- Adds a setting of one dialect. -/
def add (registry : KeywordRegistry) (dialect : Dialect) (k : Keyword) : KeywordRegistry :=
  ⟨fun other =>
    if other = dialect then (registry.keywords dialect).add k else registry.keywords other⟩

/-- Whether adding a setting of a dialect changes anything. -/
def takesEffect (registry : KeywordRegistry) (dialect : Dialect) (k : Keyword) : Bool :=
  (registry.keywords dialect).takesEffect k

end KeywordRegistry

end SqlDialects
