import SqlDialects.BulkLoad
import SqlDialects.CreateTable.Plan
import SqlDialects.Directory
import SqlDialects.Keyword

/-!
# Configuration

Defaults for the creation and loading of tables, and connection keywords, as they are set for a
whole installation.

## Main definitions

* `Config` — the configuration.
* `Config.check` — refuses settings that make no sense.
* `Config.install` — puts the connection keywords into a registry.
* `CreateTableArgs.withSettings` — table creation as configured.
-/

set_option autoImplicit false

namespace SqlDialects

open Text

/-! ## Settings -/

/-- The settings of table creation. -/
structure CreateTableSettings where
  batchSeparator : String := defaultSeparator
  timeout : UInt32 := defaultTimeout
  sampleRows : Option Nat := none
deriving DecidableEq, Repr, Inhabited

/-- A connection keyword of a dialect, which is given by name. -/
structure KeywordSetting where
  dialect : String
  keyword : String
  value : String
  priority : KeywordPriority := .apiRule
deriving DecidableEq, Repr, Inhabited

/-- A configuration. -/
structure Config where
  createTable : CreateTableSettings := {}
  bulkLoad : BulkLoadSettings := {}
  keywords : List KeywordSetting := []
deriving DecidableEq, Repr, Inhabited

/-- Takes separator, time limit and sample size from the settings. -/
def CreateTableArgs.withSettings (args : CreateTableArgs) (settings : CreateTableSettings) :
    CreateTableArgs :=
  { args with
    batchSeparator := settings.batchSeparator
    timeout := settings.timeout
    sampleRows := settings.sampleRows }

/-! ## Checks -/

/-- The separator is a text without white space, and limits are positive. -/
def CreateTableSettings.check (s : CreateTableSettings) : Except ConfigFault Unit :=
  if s.batchSeparator.isEmpty then .error .separatorMissing
  else if s.batchSeparator.toList.any isBlank then .error (.separatorBlank s.batchSeparator)
  else if s.timeout = 0 then .error (.zeroLimit "create_table.timeout_secs")
  else if s.sampleRows = some 0 then .error (.zeroLimit "create_table.sample_rows")
  else .ok ()

/-- Limits are positive. -/
def BulkLoadSettings.check (s : BulkLoadSettings) : Except ConfigFault Unit :=
  if s.timeout = 0 then .error (.zeroLimit "bulk_load.timeout_secs")
  else if s.sampleSize = 0 then .error (.zeroLimit "bulk_load.date_sample_size")
  else .ok ()

/-- The dialect is known and the keyword is not blank. -/
def KeywordSetting.check (s : KeywordSetting) (index : Nat) : Except ConfigFault Unit :=
  match Dialect.ofName s.dialect with
  | .error _ => .error (.keywordDialect index s.dialect)
  | .ok _ => if isBlankText s.keyword then .error (.keywordMissing index) else .ok ()

namespace Config

/-- Checks the keywords from the given place on. -/
def checkKeywords : (index : Nat) → List KeywordSetting → Except ConfigFault Unit
  | _, [] => .ok ()
  | index, s :: rest => do
    s.check index
    checkKeywords (index + 1) rest

/-- The first fault of a configuration is an error. -/
def check (c : Config) : Except SqlError Unit :=
  (do
    c.createTable.check
    c.bulkLoad.check
    checkKeywords 0 c.keywords : Except ConfigFault Unit).mapError .config

/-! ## Keywords -/

/-- Puts keywords into a registry, and counts those that take effect.  A dialect that is not known
is an error, and the keywords before it stay. -/
def installKeywords : KeywordRegistry → List KeywordSetting → KeywordRegistry × Except SqlError Nat
  | registry, [] => (registry, .ok 0)
  | registry, s :: rest =>
    match Dialect.ofName s.dialect with
    | .error e => (registry, .error e)
    | .ok dialect =>
      let k : Keyword := ⟨s.keyword, s.value, s.priority⟩
      let effect := if registry.takesEffect dialect k then 1 else 0
      let (registry, count) := installKeywords (registry.add dialect k) rest
      (registry, count.map (· + effect))

/-- Puts the keywords of the configuration into a registry. -/
def install (c : Config) (registry : KeywordRegistry) : KeywordRegistry × Except SqlError Nat :=
  installKeywords registry c.keywords

end Config

end SqlDialects
