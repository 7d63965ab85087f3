import SqlDialects.Document.Form
import SqlDialects.Document.Yaml

/-!
# Reading configurations

A configuration is read from a document, in which everything may be left out, and is checked at
once.
-/

set_option autoImplicit false

namespace SqlDialects.Config

/-- The configuration that a document holds, if it holds one that makes sense.  A document that
holds something else is malformed. -/
def ofDocument (malformed : SqlError) (d : Option Document) : Except SqlError Config := do
  match d.bind Form.config.decode with
  | none => throw malformed
  | some config =>
    config.check
    pure config

/-- Reads a configuration in YAML. -/
def ofYaml (text : String) : Except SqlError Config :=
  ofDocument .malformedYaml (Yaml.read? text)

/-- Reads a configuration in JSON. -/
def ofJson (d : Document) : Except SqlError Config := ofDocument .malformedJson (some d)

end SqlDialects.Config
