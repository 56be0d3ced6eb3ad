import SchemaDdl.Decode.Value
import SchemaDdl.Operation

/-!
# Operations in documents

An operation is a map with a `kind`. Fields that are not known are passed
over, and a missing field has its default. A key may also be a number, which
counts the fields of the part that it stands in.
-/

namespace SchemaDdl

open Document

def LogicalType.ofDocument? (d : Document) : Option LogicalType := do
  (LogicalType.parse (← d.text?)).toOption

namespace ReferentialAction

def ofName? (name : String) : Option ReferentialAction := all.find? fun action => action.name = name

def ofKey? : Document → Option ReferentialAction
  | .integer n => if 0 ≤ n then all[n.toNat]? else none
  | d => d.text?.bind ofName?

/-- A referential action by its name, or as the key of an entry without a value. -/
def ofDocument? : Document → Option ReferentialAction
  | .map [(key, .null)] => ofKey? key
  | .map [(key, .map [])] => ofKey? key
  | d => d.text?.bind ofName?

end ReferentialAction

namespace Fields

def text (fields : Fields) (name : String) : Option String := field? fields name text? ""

def optionalText (fields : Fields) (name : String) : Option (Option String) :=
  optionalField? fields name text?

def bool (fields : Fields) (name : String) : Option Bool := field? fields name bool? false

def texts (fields : Fields) (name : String) : Option (List String) :=
  field? fields name (listOf? text?) []

def annotations (fields : Fields) : Option AnnotationBag :=
  field? fields "annotations" AnnotationBag.ofDocument? .empty

def object (fields : Fields) (name : String) : Option ObjectName := do
  let schema ← fields.optionalText "schema"
  let name ← fields.text name
  pure { schema, name }

def columnNames : List String :=
  ["name", "clr_type", "column_type", "max_length", "fixed_length", "nullable", "default_value",
    "default_value_sql", "computed_column_sql", "annotations"]

def column (fields : Fields) : Option Column := do
  let name ← fields.text "name"
  let logical ← optionalField? fields "clr_type" LogicalType.ofDocument?
  let storeType ← fields.optionalText "column_type"
  let maxLength ← optionalField? fields "max_length" word32?
  let fixedLength ← fields.bool "fixed_length"
  let nullable ← fields.bool "nullable"
  let defaultValue ← optionalField? fields "default_value" Value.ofDocument?
  let defaultSql ← fields.optionalText "default_value_sql"
  let computedSql ← fields.optionalText "computed_column_sql"
  let annotations ← fields.annotations
  pure { name, logical, storeType, maxLength, fixedLength, nullable, defaultValue, defaultSql,
         computedSql, annotations }

def keyNames : List String := ["name", "columns"]

def keyConstraint (fields : Fields) : Option KeyConstraint := do
  let name ← fields.optionalText "name"
  let columns ← fields.texts "columns"
  pure { name, columns }

def foreignKeyNames : List String :=
  ["name", "columns", "principal_schema", "principal_table", "principal_columns", "on_delete",
    "on_update"]

def foreignKey (fields : Fields) : Option ForeignKey := do
  let name ← fields.optionalText "name"
  let columns ← fields.texts "columns"
  let schema ← fields.optionalText "principal_schema"
  let table ← fields.text "principal_table"
  let principalColumns ← fields.texts "principal_columns"
  let onDelete ← field? fields "on_delete" ReferentialAction.ofDocument? .noAction
  let onUpdate ← field? fields "on_update" ReferentialAction.ofDocument? .noAction
  pure { name, columns, principal := ⟨schema, table⟩, principalColumns, onDelete, onUpdate }

/-- A map whose fields may have numbers for their names. -/
def inner (names : List String) (read : Fields → Option α) (d : Document) : Option α := do
  read (← d.fields? names)

def tableDefinition (fields : Fields) : Option TableDefinition := do
  let table ← fields.object "name"
  let columns ← field? fields "columns" (listOf? (inner columnNames column)) []
  let primaryKey ← optionalField? fields "primary_key" (inner keyNames keyConstraint)
  let uniqueKeys ← field? fields "unique_constraints" (listOf? (inner keyNames keyConstraint)) []
  let foreignKeys ← field? fields "foreign_keys" (listOf? (inner foreignKeyNames foreignKey)) []
  let annotations ← fields.annotations
  pure { table, columns, primaryKey, uniqueKeys, foreignKeys, annotations }

def relocation (fields : Fields) : Option Relocation := do
  let object ← fields.object "name"
  let newName ← fields.optionalText "new_name"
  let newSchema ← fields.optionalText "new_schema"
  pure { object, newName, newSchema }

def indexDefinition (fields : Fields) : Option IndexDefinition := do
  let name ← fields.text "name"
  let table ← fields.object "table"
  let columns ← fields.texts "columns"
  let unique ← fields.bool "unique"
  let filter ← fields.optionalText "filter"
  let annotations ← fields.annotations
  pure { name, table, columns, unique, filter, annotations }

def databaseDefinition (fields : Fields) : Option DatabaseDefinition := do
  let name ← fields.text "name"
  let template ← fields.optionalText "template"
  let tablespace ← fields.optionalText "tablespace"
  pure { name, template, tablespace }

def sequenceOptions (fields : Fields) : Option SequenceOptions := do
  let increment ← field? fields "increment_by" int64? 1
  let least ← optionalField? fields "min_value" int64?
  let greatest ← optionalField? fields "max_value" int64?
  let cyclic ← fields.bool "cyclic"
  pure { increment, least, greatest, cyclic }

def sequenceDefinition (fields : Fields) : Option SequenceDefinition := do
  let sequence ← fields.object "name"
  let logical ← field? fields "clr_type" LogicalType.ofDocument? (.scalar .int64)
  let start ← field? fields "start_value" int64? 1
  let options ← fields.sequenceOptions
  pure { sequence, logical, start, options }

def dropIndex (fields : Fields) : Option Operation := do
  let index ← fields.object "name"
  let table ← fields.optionalText "table"
  pure (.dropIndex index table)

def dropConstraint (kind : ConstraintKind) (fields : Fields) : Option Operation := do
  let table ← fields.object "table"
  let name ← fields.text "name"
  pure (.dropConstraint kind table name)

def addKey (make : ObjectName → KeyConstraint → Operation) (fields : Fields) :
    Option Operation := do
  let table ← fields.object "table"
  let key ← fields.keyConstraint
  pure (make table key)

def addForeignKey (fields : Fields) : Option Operation := do
  let table ← fields.object "table"
  let key ← fields.foreignKey
  pure (.addForeignKey table key)

def alterTable (fields : Fields) : Option Operation := do
  let table ← fields.object "name"
  let new ← fields.annotations
  let old ← field? fields "old_table" (inner ["annotations"] annotations) .empty
  pure (.alterTable table new old)

def addColumn (fields : Fields) : Option Operation := do
  let table ← fields.object "table"
  let column ← fields.column
  pure (.addColumn table column)

def dropColumn (fields : Fields) : Option Operation := do
  let table ← fields.object "table"
  let name ← fields.text "name"
  pure (.dropColumn table name)

def alterColumn (fields : Fields) : Option Operation := do
  let table ← fields.object "table"
  let new ← fields.column
  let old ← field? fields "old_column" (inner columnNames column) {}
  pure (.alterColumn table new old)

def renameColumn (fields : Fields) : Option Operation := do
  let table ← fields.object "table"
  let name ← fields.text "name"
  let newName ← fields.text "new_name"
  pure (.renameColumn table name newName)

def alterSequence (fields : Fields) : Option Operation := do
  let sequence ← fields.object "name"
  let options ← fields.sequenceOptions
  pure (.alterSequence sequence options)

def restartSequence (fields : Fields) : Option Operation := do
  let sequence ← fields.object "name"
  let start ← field? fields "start_value" int64? 0
  pure (.restartSequence sequence start)

def rawSql (fields : Fields) : Option Operation := do
  let sql ← fields.text "sql"
  let suppressed ← fields.bool "suppress_transaction"
  pure (.sql sql suppressed)

end Fields

/-- How the operations of a kind are read. The fields of some are those of a part of them, and
have no numbers. -/
structure OperationForm where
  names : List String := []
  read : Fields → Option Operation

namespace OperationForm

def named (make : String → Operation) : OperationForm :=
  ⟨["name"], fun fields => (fields.text "name").map make⟩

def dropObject (make : ObjectName → Operation) : OperationForm :=
  ⟨["name", "schema"], fun fields => (fields.object "name").map make⟩

def relocate (kind : ObjectKind) : OperationForm :=
  ⟨["name", "schema", "new_name", "new_schema"],
    fun fields => fields.relocation.map (.relocate kind)⟩

def dropConstraint (kind : ConstraintKind) : OperationForm :=
  ⟨["name", "schema", "table"], Fields.dropConstraint kind⟩

def ofKind? : String → Option OperationForm
  | "create_table" => some
    ⟨["name", "schema", "columns", "primary_key", "unique_constraints", "foreign_keys",
      "annotations"], fun fields => fields.tableDefinition.map .createTable⟩
  | "alter_table" => some ⟨["name", "schema", "annotations", "old_table"], Fields.alterTable⟩
  | "drop_table" => some (dropObject .dropTable)
  | "add_column" => some { read := Fields.addColumn }
  | "drop_column" => some ⟨["name", "schema", "table"], Fields.dropColumn⟩
  | "alter_column" => some { read := Fields.alterColumn }
  | "rename_table" => some (relocate .table)
  | "rename_column" => some ⟨["schema", "table", "name", "new_name"], Fields.renameColumn⟩
  | "rename_index" => some (relocate .index)
  | "rename_sequence" => some (relocate .sequence)
  | "create_index" => some
    ⟨["name", "schema", "table", "columns", "unique", "filter", "annotations"],
      fun fields => fields.indexDefinition.map .createIndex⟩
  | "drop_index" => some ⟨["name", "schema", "table"], Fields.dropIndex⟩
  | "ensure_schema" => some (named .ensureSchema)
  | "drop_schema" => some (named .dropSchema)
  | "create_database" => some
    ⟨["name", "template", "tablespace"],
      fun fields => fields.databaseDefinition.map .createDatabase⟩
  | "drop_database" => some (named .dropDatabase)
  | "alter_database" => some ⟨["annotations"], fun fields => fields.annotations.map .alterDatabase⟩
  | "create_sequence" => some
    ⟨["name", "schema", "clr_type", "start_value", "increment_by", "min_value", "max_value",
      "cyclic"], fun fields => fields.sequenceDefinition.map .createSequence⟩
  | "alter_sequence" => some
    ⟨["name", "schema", "increment_by", "min_value", "max_value", "cyclic"],
      Fields.alterSequence⟩
  | "restart_sequence" => some ⟨["name", "schema", "start_value"], Fields.restartSequence⟩
  | "drop_sequence" => some (dropObject .dropSequence)
  | "add_primary_key" => some { read := Fields.addKey .addPrimaryKey }
  | "drop_primary_key" => some (dropConstraint .primaryKey)
  | "add_foreign_key" => some { read := Fields.addForeignKey }
  | "drop_foreign_key" => some (dropConstraint .foreignKey)
  | "add_unique_constraint" => some { read := Fields.addKey .addUnique }
  | "drop_unique_constraint" => some (dropConstraint .unique)
  | "sql" => some ⟨["sql", "suppress_transaction"], Fields.rawSql⟩
  | _ => none

end OperationForm

/-- The operation that a map describes, all of which has to be readable. -/
def Operation.ofDocument? (d : Document) : Option Operation := do
  match d with
  | .map entries =>
    let (kinds, others) := entries.partition fun (key, _) => key.text? = some "kind"
    match kinds with
    | [(_, kind)] =>
      let form ← OperationForm.ofKind? (← kind.text?)
      if d.readable then form.read (← named? form.names others) else none
    | _ => none
  | _ => none

end SchemaDdl
