import SchemaDdl.Document
import SchemaDdl.Model
import SchemaDdl.Settings

/-!
# Settings and models in documents

Both are maps in which every field has a default. The scalars of these
documents are texts throughout.
-/

namespace SchemaDdl

open Document

/-- The settings that a map holds. They are not validated here. -/
def Settings.ofDocument? (d : Document) : Option Settings := do
  let fields ← d.fields? []
  let postgresVersion ← field? fields "postgres_version" text? "12.0"
  let defaultSchema ← field? fields "default_schema" text? "public"
  let terminator ← field? fields "statement_terminator" text? ";"
  pure { postgresVersion, defaultSchema, terminator }

def ModelColumn.ofDocument? (d : Document) : Option ModelColumn := do
  let fields ← d.fields? []
  let name ← field? fields "name" text? ""
  let storeType ← optionalField? fields "column_type" text?
  pure { name, storeType }

def ModelTable.ofDocument? (d : Document) : Option ModelTable := do
  let fields ← d.fields? []
  let schema ← optionalField? fields "schema" text?
  let name ← field? fields "name" text? ""
  let columns ← field? fields "columns" (listOf? ModelColumn.ofDocument?) []
  pure { schema, name, columns }

def Model.ofDocument? (d : Document) : Option Model := do
  let fields ← d.fields? []
  let tables ← field? fields "tables" (listOf? ModelTable.ofDocument?) []
  pure { tables }

end SchemaDdl
