import SchemaDdl.Model
import SchemaDdl.Statement.Sequence

/-!
# Columns

The type of a column, its definition in a table, and the statements that add,
drop, rename and alter one. Columns that the server adds to every table never
appear in any of them.
-/

namespace SchemaDdl

/-- The columns that the server adds to every table. -/
def systemColumns : List String := ["oid", "tableoid", "xmin", "cmin", "xmax", "cmax", "ctid"]

def isSystemColumn (name : String) : Bool := systemColumns.contains name

namespace Render

/-- A value as a literal of a store type, or on its own if the type is not known. -/
def literal (value : Value) (storeType : Option String) : Render String :=
  match storeType with
  | none => pure value.literal
  | some name => do
    match ← find { storeName := some name } with
    | some d => pure (d.literal value)
    | none => pure value.literal

end Render

namespace Statement

open Render

/-- The type that a column has: the one it names, or what the model says, or what its logical
type is stored as. -/
def columnType (table : ObjectName) (column : Column) (model : Option Model) : Render String :=
  match column.storeType.filter fun t => !Text.isBlank t with
  | some storeType => pure storeType
  | none =>
    match model.bind fun m => m.storeType? table.schema table.name column.name with
    | some storeType => pure storeType
    | none =>
      match column.logical with
      | none =>
        ofResult (.error (.typeNotFound
          ("column '" ++ column.name ++ "' of '" ++ table.name ++
            "' (no column type or logical type given)")))
      | some logical => do
        let d ← require {
          logical := some logical
          size := column.maxLength
          fixedLength := column.fixedLength }
        pure d.storeType

/-- The default of a column: an SQL expression, or else the literal of a value. -/
def defaultClause (value : Option Value) (sql : Option String) (storeType : String) :
    Render String :=
  match sql, value with
  | some sql, _ => pure (" DEFAULT (" ++ sql ++ ")")
  | none, some value => do
    let literal ← literal value (some storeType)
    pure (" DEFAULT " ++ literal)
  | none, none => pure ""

def columnDefinitionOf (column : Column) (storeType : String) : Render Unit := do
  appendName { name := column.name }
  append " "
  append storeType
  optionally column.computedSql fun computed =>
    append (" GENERATED ALWAYS AS (" ++ computed ++ ") STORED")
  onlyIf (!column.nullable) (append " NOT NULL")
  -- A computed column has no default.
  onlyIf column.computedSql.isNone do
    let clause ← defaultClause column.defaultValue column.defaultSql storeType
    append clause

def identityClause : GenerationStrategy → String
  | .identityAlways => "GENERATED ALWAYS AS IDENTITY"
  | _ => "GENERATED BY DEFAULT AS IDENTITY"

/-- The serial type of the width that an integer type has. -/
def serialType? (storeType : String) : Option String :=
  match storeType.map Char.toLower with
  | "smallint" | "int2" => some "smallserial"
  | "integer" | "int" | "int4" => some "serial"
  | "bigint" | "int8" => some "bigserial"
  | _ => none

def serialStoreType (strategy : GenerationStrategy) (storeType : String) : String :=
  if strategy = .serial then (serialType? storeType).getD storeType else storeType

def columnDefinition (g : Generator) (table : ObjectName) (column : Column)
    (model : Option Model) : Render Unit :=
  match g.dialect with
  | .neutral => do
    let storeType ← columnType table column model
    columnDefinitionOf column storeType
  | .postgres version _ => do
    let view ← ofResult (AnnotationView.ofBag column.annotations)
    onlyIf column.computedSql.isSome (ofResult (version.demand ⟨12, 0⟩ "Generated columns"))
    onlyIf view.strategy.isIdentity (ofResult (version.demand ⟨10, 0⟩ "Identity columns"))
    let storeType ← columnType table column model
    if view.strategy.isIdentity then do
      columnDefinitionOf { column with defaultValue := none, defaultSql := none } storeType
      append (" " ++ identityClause view.strategy)
    else columnDefinitionOf column (serialStoreType view.strategy storeType)

def commentText : Option String → String
  | some comment => Value.quote comment
  | none => "NULL"

/-- The comment of a column. The table is quoted already. -/
def commentOnColumn (table column : String) (comment : Option String) : Render Unit := do
  append ("COMMENT ON COLUMN " ++ table ++ ".")
  appendName { name := column }
  append (" IS " ++ commentText comment)

def addColumnClause (g : Generator) (table : ObjectName) (column : Column)
    (model : Option Model) : Render Unit := do
  append "ALTER TABLE "
  appendName table
  append " ADD "
  columnDefinition g table column model

def addColumn (g : Generator) (table : ObjectName) (column : Column) (model : Option Model)
    (terminated : Bool) : Render Unit :=
  match g.dialect with
  | .neutral => do
    addColumnClause g table column model
    g.terminateIf terminated
  | .postgres _ _ =>
    if isSystemColumn column.name then pure ()
    else do
      let view ← ofResult (AnnotationView.ofBag column.annotations)
      addColumnClause g table column model
      optionally view.comment fun comment => do
        let name ← ofResult table.delimit
        g.endLine
        commentOnColumn name column.name (some comment)
      g.terminateIf terminated

def dropColumnClause (table : ObjectName) (column : String) : Render Unit := do
  append "ALTER TABLE "
  appendName table
  append " DROP COLUMN "
  appendName { name := column }

def dropColumn (g : Generator) (table : ObjectName) (column : String) (terminated : Bool) :
    Render Unit :=
  if g.dialect ≠ .neutral ∧ isSystemColumn column then pure ()
  else do
    dropColumnClause table column
    g.terminateIf terminated

def renameColumn (g : Generator) (table : ObjectName) (column newName : String) :
    Render Unit := do
  append "ALTER TABLE "
  appendName table
  append " RENAME COLUMN "
  appendName { name := column }
  append " TO "
  appendName { name := newName }
  g.terminate false

/-- What a sequence behind a column counts in: any type but the two narrower ones takes the widest
integers. -/
def sequenceLogical (storeType : String) : LogicalType :=
  match storeType.map Char.toLower with
  | "smallint" | "int2" => .scalar .int16
  | "integer" | "int" | "int4" => .scalar .int32
  | _ => .scalar .int64

/-- Creates the sequence behind a serial column of an integer type and gives its quoted name. -/
def createBackingSequence (g : Generator) (table : ObjectName) (column : Column)
    (strategy : GenerationStrategy) (storeType : String) : Render (Option String) :=
  if strategy = .serial ∧ isIntegerStoreType storeType = true then do
    let sequence : ObjectName := ⟨table.schema, BackingSequence.name table.name column.name⟩
    let name ← ofResult sequence.delimit
    createSequence g { sequence, logical := sequenceLogical storeType } false
    g.endLine
    pure (some name)
  else pure none

/-- What the new default of a column is made from. Its sequence stands in for a value and for an
expression alike. -/
def alteredSource (column : Column) : Option String → Option Value × Option String
  | some sequence => (none, some ("nextval(" ++ Value.quote sequence ++ ")"))
  | none => (column.defaultValue, column.defaultSql)

def defaultChange (column : Column) (owned : Option String) (storeType : String) :
    Render String := do
  let (value, sql) := alteredSource column owned
  if value.isSome || sql.isSome then do
    let clause ← defaultClause value sql storeType
    pure (" SET" ++ clause)
  else pure " DROP DEFAULT"

def identityChange (strategy old : GenerationStrategy) : Option String :=
  if strategy.isIdentity && strategy ≠ old then
    if old.isIdentity then
      some
        (if strategy = .identityAlways then " SET GENERATED ALWAYS"
        else " SET GENERATED BY DEFAULT")
    else some (" ADD " ++ identityClause strategy)
  else if old.isIdentity && !strategy.isIdentity then some " DROP IDENTITY"
  else none

/-- The statements after which a column has its new type, nullability, default, strategy and
comment. The names of the table and the column are quoted already. -/
def columnChanges (g : Generator) (tableName columnName : String) (column : Column)
    (view oldView : AnnotationView) (storeType : String) (owned : Option String) :
    Render Unit := do
  let alter := "ALTER TABLE " ++ tableName ++ " ALTER COLUMN " ++ columnName
  g.statement (alter ++ " TYPE " ++ storeType)
  g.statement (alter ++ if column.nullable then " DROP NOT NULL" else " SET NOT NULL")
  let change ← defaultChange column owned storeType
  g.statement (alter ++ change)
  optionally owned fun sequence =>
    g.statement ("ALTER SEQUENCE " ++ sequence ++ " OWNED BY " ++ tableName ++ "." ++ columnName)
  optionally (identityChange view.strategy oldView.strategy) fun change =>
    g.statement (alter ++ change)
  onlyIf (view.comment ≠ oldView.comment) do
    commentOnColumn tableName column.name view.comment
    g.endLine
  close false

/-- Alters a column in one command. -/
def alterPostgresColumn (g : Generator) (version : Version) (table : ObjectName)
    (column old : Column) (model : Option Model) : Render Unit := do
  let view ← ofResult (AnnotationView.ofBag column.annotations)
  let oldView ← ofResult (AnnotationView.ofBag old.annotations)
  if isSystemColumn column.name then pure ()
  else do
    let storeType ← columnType table column model
    onlyIf (view.strategy.isIdentity || oldView.strategy.isIdentity)
      (ofResult (version.demand ⟨10, 0⟩ "Identity columns"))
    let tableName ← ofResult table.delimit
    let columnName ← ofResult (Identifier.delimit column.name)
    -- All that can fail is settled by now, and the first text is written.
    let owned ← createBackingSequence g table column view.strategy storeType
    columnChanges g tableName columnName column view oldView storeType owned

def alterColumn (g : Generator) (table : ObjectName) (column old : Column)
    (model : Option Model) : Render Unit :=
  match g.dialect with
  | .neutral => unsupported "alter_column" column.name
  | .postgres version _ => alterPostgresColumn g version table column old model

end Statement

end SchemaDdl
