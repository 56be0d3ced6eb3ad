import SchemaDdl.Identifier
import SchemaDdl.Version

/-!
# Generator settings

The target server, the schema that always exists and the token that ends a
statement. Settings are plain texts until they are validated.
-/

namespace SchemaDdl

structure Settings where
  postgresVersion : String := "12.0"
  defaultSchema : String := "public"
  terminator : String := ";"
  deriving DecidableEq, Repr

namespace Settings

def forVersion (v : Version) : Settings := { postgresVersion := v.text }

/-- The target version; the standard one stands in for a text that is no version. -/
def version (settings : Settings) : Version :=
  (Version.read? settings.postgresVersion.toList).getD Version.standard

/-- The version is checked first, then the default schema, then the terminator. -/
def validate (settings : Settings) : Result Unit := do
  let _ ← Version.parse settings.postgresVersion
  if settings.defaultSchema = "" then
    throw (.config "default_schema is required")
  Identifier.check settings.defaultSchema
  if Text.isBlank settings.terminator then
    throw (.config "statement_terminator cannot be blank")

end Settings

end SchemaDdl
