import SchemaDdl.Generator
import SchemaDdl.Operation

/-!
# Databases, schemas, and moving objects

Databases and extensions are made outside transactions. An object is renamed
where it is and then moved.
-/

namespace SchemaDdl.Statement

open Render

def renameTo (g : Generator) (kind : ObjectKind) (object : ObjectName) (newName : String) :
    Render Unit := do
  append ("ALTER " ++ kind.sql ++ " ")
  appendName object
  append " RENAME TO "
  appendName { name := newName }
  g.endLine

def moveTo (g : Generator) (kind : ObjectKind) (object : ObjectName) (newSchema : String) :
    Render Unit := do
  append ("ALTER " ++ kind.sql ++ " ")
  appendName object
  append " SET SCHEMA "
  appendName { name := newSchema }
  g.endLine

def relocate (g : Generator) (kind : ObjectKind) (r : Relocation) : Render Unit :=
  match g.dialect with
  | .neutral => unsupported ("rename_" ++ kind.word) r.object.name
  | .postgres _ _ => do
    let newName := r.newName.filter fun n => n ≠ r.object.name
    let newSchema := r.newSchema.filter fun s => some s ≠ r.object.schema
    -- The object is renamed in its old schema, and then moved under its new name.
    optionally newName (renameTo g kind r.object)
    optionally newSchema (moveTo g kind ⟨r.object.schema, newName.getD r.object.name⟩)
    onlyIf (newName.isSome ∨ newSchema.isSome) (close false)

def ensureSchema (g : Generator) (schema : String) : Render Unit :=
  match g.dialect with
  | .neutral => unsupported "ensure_schema" schema
  | .postgres _ defaultSchema =>
    -- The default schema always exists.
    if schema = defaultSchema then pure ()
    else do
      append "CREATE SCHEMA IF NOT EXISTS "
      appendName { name := schema }
      g.terminate false

def dropSchema (g : Generator) (schema : String) : Render Unit := do
  append "DROP SCHEMA "
  appendName { name := schema }
  g.terminate false

def namedClause (keyword : String) (name : Option String) : Render Unit :=
  optionally name fun name => do
    append (" " ++ keyword ++ " ")
    appendName { name }

def createDatabase (g : Generator) (d : DatabaseDefinition) : Render Unit :=
  match g.dialect with
  | .neutral => unsupported "create_database" d.name
  | .postgres _ _ => do
    append "CREATE DATABASE "
    appendName { name := d.name }
    namedClause "TEMPLATE" d.template
    namedClause "TABLESPACE" d.tablespace
    g.terminate true

/-- The column that identifies a server process; it was renamed in version 9.2. -/
def processColumn (version : Version) : String :=
  if version.atLeast ⟨9, 2⟩ then "pid" else "procpid"

/-- Closes the database to the public, ends its connections and drops it. -/
def dropDatabase (g : Generator) (name : String) : Render Unit :=
  match g.dialect with
  | .neutral => unsupported "drop_database" name
  | .postgres version _ => do
    let database ← ofResult (Identifier.delimit name)
    append ("REVOKE CONNECT ON DATABASE " ++ database ++ " FROM PUBLIC")
    g.terminate true
    append ("SELECT pg_terminate_backend(pg_stat_activity." ++ processColumn version ++
      ") FROM pg_stat_activity WHERE datname = " ++ Value.quote name)
    g.terminate true
    append ("DROP DATABASE " ++ database)
    g.terminate true

def createExtension (g : Generator) (extension : Extension) : Render Unit := do
  append "CREATE EXTENSION IF NOT EXISTS "
  appendName { name := extension.name }
  namedClause "SCHEMA" extension.schema
  namedClause "VERSION" extension.version
  g.terminate true

/-- Creates the extensions that the annotations ask for, each in a command of its own. -/
def alterDatabase (g : Generator) (annotations : AnnotationBag) : Render Unit :=
  match g.dialect with
  | .neutral => unsupported "alter_database" "database"
  | .postgres _ _ => do
    let view ← ofResult (AnnotationView.ofBag annotations)
    view.extensions.forM (createExtension g)

/-- Raw SQL is written as it is, without a terminator. -/
def rawSql (text : String) (suppressed : Bool) : Render Unit := do
  appendLine (Text.trimmedEnd text)
  close suppressed

end SchemaDdl.Statement
