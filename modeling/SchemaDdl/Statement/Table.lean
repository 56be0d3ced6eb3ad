import SchemaDdl.Statement.Column
import SchemaDdl.Statement.Constraint

/-!
# Tables and indexes

Creating, altering and dropping tables, and creating and dropping indexes.
-/

namespace SchemaDdl.Statement

open Render

def tableElements (g : Generator) (d : TableDefinition) (model : Option Model) :
    List (Render Unit) :=
  d.columns.map (fun column => columnDefinition g d.table column model) ++
    d.primaryKey.toList.map primaryKeyClause ++
    d.uniqueKeys.map uniqueClause ++
    d.foreignKeys.map foreignKeyClause

def tableBody (g : Generator) (d : TableDefinition) (model : Option Model) : Render Unit := do
  appendLine " ("
  indent
  commaLines (tableElements g d model)
  breakLine
  dedent
  append ")"

def interleaveClause (interleave : Option Interleave) : Render Unit :=
  optionally interleave fun interleave => do
    let columns ← ofResult (Identifier.delimitList interleave.columns)
    breakLine
    append "INTERLEAVE IN PARENT "
    appendName ⟨interleave.schema, interleave.table⟩
    append (" (" ++ columns ++ ")")

def storageClause (parameters : StorageParameters) : Render Unit :=
  onlyIf (!parameters.isEmpty) do
    breakLine
    append ("WITH (" ++ StorageParameters.text parameters ++ ")")

def commentOnTable (table : String) (comment : Option String) : String :=
  "COMMENT ON TABLE " ++ table ++ " IS " ++ commentText comment

/-- The comments of columns, each after the end of the statement before it. -/
def columnComments (g : Generator) (table : String) : List (String × Option String) → Render Unit
  | [] => pure ()
  | (_, none) :: rest => columnComments g table rest
  | (column, some comment) :: rest => do
    g.endLine
    commentOnColumn table column (some comment)
    columnComments g table rest

def commentOf (column : Column) : Result (String × Option String) := do
  let view ← AnnotationView.ofBag column.annotations
  pure (column.name, view.comment)

/-- The columns that are the user's own. -/
def TableDefinition.userColumns (columns : List Column) : List Column :=
  columns.filter fun column => !isSystemColumn column.name

def createPostgresTable (g : Generator) (d : TableDefinition) (model : Option Model)
    (terminated : Bool) : Render Unit := do
  let view ← ofResult (AnnotationView.ofBag d.annotations)
  let own := { d with columns := TableDefinition.userColumns d.columns }
  let comments ← ofResult (own.columns.mapM commentOf)
  let table ← ofResult own.table.delimit
  append ("CREATE " ++ (if view.unlogged then "UNLOGGED " else "") ++ "TABLE " ++ table)
  tableBody g own model
  interleaveClause view.interleave
  storageClause view.storage
  optionally view.comment fun comment => do
    g.endLine
    append (commentOnTable table (some comment))
  columnComments g table comments
  g.terminateIf terminated

def createTable (g : Generator) (d : TableDefinition) (model : Option Model)
    (terminated : Bool) : Render Unit :=
  match g.dialect with
  | .neutral => do
    append "CREATE TABLE "
    appendName d.table
    tableBody g d model
    g.terminateIf terminated
  | .postgres _ _ => createPostgresTable g d model terminated

/-- The statements that turn what the old annotations say into what the new ones say. -/
def tableChanges (table : String) (new old : AnnotationView) : List String :=
  let changed := StorageParameters.changedFrom new.storage old.storage
  let removed := StorageParameters.removedFrom new.storage old.storage
  let alter := "ALTER TABLE " ++ table
  (if new.unlogged = old.unlogged then []
    else [alter ++ if new.unlogged then " SET UNLOGGED" else " SET LOGGED"]) ++
  (if changed.isEmpty then []
    else [alter ++ " SET (" ++ StorageParameters.pairsText changed ++ ")"]) ++
  (if removed.isEmpty then []
    else [alter ++ " RESET (" ++ String.intercalate ", " removed ++ ")"]) ++
  (if new.comment = old.comment then [] else [commentOnTable table new.comment])

/-- Statements one after the other in one command; no command for no statement. -/
def batch (g : Generator) : List String → Render Unit
  | [] => pure ()
  | statements => do
    statements.forM g.statement
    close false

def alterTable (g : Generator) (table : ObjectName) (annotations old : AnnotationBag) :
    Render Unit :=
  match g.dialect with
  -- Only annotations of a table can change, and there is no neutral SQL for that.
  | .neutral => pure ()
  | .postgres _ _ => do
    let view ← ofResult (AnnotationView.ofBag annotations)
    let oldView ← ofResult (AnnotationView.ofBag old)
    let name ← ofResult table.delimit
    batch g (tableChanges name view oldView)

def dropTable (g : Generator) (table : ObjectName) : Render Unit := do
  append "DROP TABLE "
  appendName table
  g.terminate false

def filterClause (filter : Option String) : Render Unit :=
  optionally (filter.filter fun f => !Text.isBlank f) fun condition =>
    append (" WHERE " ++ condition)

def createNeutralIndex (g : Generator) (d : IndexDefinition) (terminated : Bool) :
    Render Unit := do
  append "CREATE "
  onlyIf d.unique (append "UNIQUE ")
  append "INDEX "
  appendName { name := d.name }
  append " ON "
  appendName d.table
  append " ("
  appendColumns d.columns
  append ")"
  filterClause d.filter
  g.terminateIf terminated

def createPostgresIndex (g : Generator) (d : IndexDefinition) (terminated : Bool) :
    Render Unit := do
  let view ← ofResult (AnnotationView.ofBag d.annotations)
  append "CREATE "
  onlyIf d.unique (append "UNIQUE ")
  append "INDEX "
  appendName { name := d.name }
  append " ON "
  appendName d.table
  optionally view.indexMethod fun method => append (" USING " ++ method)
  append " ("
  appendColumns d.columns
  append ")"
  filterClause d.filter
  g.terminateIf terminated

def createIndex (g : Generator) (d : IndexDefinition) (terminated : Bool) : Render Unit :=
  match g.dialect with
  | .neutral => createNeutralIndex g d terminated
  | .postgres _ _ => createPostgresIndex g d terminated

def dropIndex (g : Generator) (index : ObjectName) : Render Unit :=
  match g.dialect with
  | .neutral => unsupported "drop_index" index.name
  | .postgres _ _ => do
    append "DROP INDEX "
    appendName index
    g.terminate false

end SchemaDdl.Statement
