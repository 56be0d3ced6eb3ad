import SchemaDdl.Annotation.View
import SchemaDdl.Identifier
import SchemaDdl.LogicalType

/-!
# Operations

One change of a schema. A migration is a list of operations in the order in
which they are to be carried out. Operations are plain data; which of them
make sense is a matter of validity.
-/

namespace SchemaDdl

structure Column where
  name : String := ""
  /-- The type that counts where no store type is given. -/
  logical : Option LogicalType := none
  storeType : Option String := none
  maxLength : Option Nat := none
  fixedLength : Bool := false
  nullable : Bool := false
  defaultValue : Option Value := none
  defaultSql : Option String := none
  computedSql : Option String := none
  annotations : AnnotationBag := .empty

/-- What happens to rows that refer to a row that goes away or changes its key. -/
inductive ReferentialAction where
  | noAction | restrict | cascade | setNull | setDefault
  deriving DecidableEq, Repr

namespace ReferentialAction

def all : List ReferentialAction := [noAction, restrict, cascade, setNull, setDefault]

def name : ReferentialAction → String
  | noAction => "no_action"
  | restrict => "restrict"
  | cascade => "cascade"
  | setNull => "set_null"
  | setDefault => "set_default"

def sql : ReferentialAction → String
  | noAction => "NO ACTION"
  | restrict => "RESTRICT"
  | cascade => "CASCADE"
  | setNull => "SET NULL"
  | setDefault => "SET DEFAULT"

end ReferentialAction

structure KeyConstraint where
  name : Option String := none
  columns : List String := []
  deriving DecidableEq, Repr

/-- Columns that refer to another table. Without principal columns its primary key is meant. -/
structure ForeignKey where
  name : Option String := none
  columns : List String := []
  principal : ObjectName := {}
  principalColumns : List String := []
  onDelete : ReferentialAction := .noAction
  onUpdate : ReferentialAction := .noAction
  deriving DecidableEq, Repr

structure TableDefinition where
  table : ObjectName
  columns : List Column := []
  primaryKey : Option KeyConstraint := none
  uniqueKeys : List KeyConstraint := []
  foreignKeys : List ForeignKey := []
  annotations : AnnotationBag := .empty

/-- An index to be created. The filter is an SQL condition. -/
structure IndexDefinition where
  name : String
  table : ObjectName
  columns : List String := []
  unique : Bool := false
  filter : Option String := none
  annotations : AnnotationBag := .empty

structure DatabaseDefinition where
  name : String
  template : Option String := none
  tablespace : Option String := none
  deriving DecidableEq, Repr

structure SequenceOptions where
  increment : Int64 := 1
  least : Option Int64 := none
  greatest : Option Int64 := none
  cyclic : Bool := false
  deriving DecidableEq

structure SequenceDefinition where
  sequence : ObjectName
  logical : LogicalType := .scalar .int64
  start : Int64 := 1
  options : SequenceOptions := {}
  deriving DecidableEq

/-- Objects of a schema that can be renamed and moved. -/
inductive ObjectKind where
  | table | sequence | index
  deriving DecidableEq, Repr

namespace ObjectKind

def sql : ObjectKind → String
  | table => "TABLE"
  | sequence => "SEQUENCE"
  | index => "INDEX"

def word : ObjectKind → String
  | table => "table"
  | sequence => "sequence"
  | index => "index"

end ObjectKind

/-- A new name or a new schema, or both, for an object. -/
structure Relocation where
  object : ObjectName
  newName : Option String := none
  newSchema : Option String := none
  deriving DecidableEq, Repr

inductive ConstraintKind where
  | primaryKey | foreignKey | unique
  deriving DecidableEq, Repr

def ConstraintKind.word : ConstraintKind → String
  | .primaryKey => "primary_key"
  | .foreignKey => "foreign_key"
  | .unique => "unique_constraint"

inductive Operation where
  | createTable (definition : TableDefinition)
  | alterTable (table : ObjectName) (annotations old : AnnotationBag)
  | dropTable (table : ObjectName)
  | addColumn (table : ObjectName) (column : Column)
  | dropColumn (table : ObjectName) (column : String)
  | alterColumn (table : ObjectName) (column old : Column)
  | renameColumn (table : ObjectName) (column newName : String)
  | relocate (kind : ObjectKind) (relocation : Relocation)
  | createIndex (definition : IndexDefinition)
  /-- The table of the index may be given, but an index has a name of its own in its schema. -/
  | dropIndex (index : ObjectName) (table : Option String)
  | ensureSchema (schema : String)
  | dropSchema (schema : String)
  | createDatabase (definition : DatabaseDefinition)
  | dropDatabase (name : String)
  | alterDatabase (annotations : AnnotationBag)
  | createSequence (definition : SequenceDefinition)
  | alterSequence (sequence : ObjectName) (options : SequenceOptions)
  | restartSequence (sequence : ObjectName) (start : Int64)
  | dropSequence (sequence : ObjectName)
  | addPrimaryKey (table : ObjectName) (key : KeyConstraint)
  | addForeignKey (table : ObjectName) (key : ForeignKey)
  | addUnique (table : ObjectName) (key : KeyConstraint)
  | dropConstraint (kind : ConstraintKind) (table : ObjectName) (constraint : String)
  | sql (text : String) (suppressed : Bool)

def Operation.kind : Operation → String
  | createTable _ => "create_table"
  | alterTable _ _ _ => "alter_table"
  | dropTable _ => "drop_table"
  | addColumn _ _ => "add_column"
  | dropColumn _ _ => "drop_column"
  | alterColumn _ _ _ => "alter_column"
  | renameColumn _ _ _ => "rename_column"
  | relocate kind _ => "rename_" ++ kind.word
  | createIndex _ => "create_index"
  | dropIndex _ _ => "drop_index"
  | ensureSchema _ => "ensure_schema"
  | dropSchema _ => "drop_schema"
  | createDatabase _ => "create_database"
  | dropDatabase _ => "drop_database"
  | alterDatabase _ => "alter_database"
  | createSequence _ => "create_sequence"
  | alterSequence _ _ => "alter_sequence"
  | restartSequence _ _ => "restart_sequence"
  | dropSequence _ => "drop_sequence"
  | addPrimaryKey _ _ => "add_primary_key"
  | addForeignKey _ _ => "add_foreign_key"
  | addUnique _ _ => "add_unique_constraint"
  | dropConstraint kind _ _ => "drop_" ++ kind.word
  | sql _ _ => "sql"

end SchemaDdl
