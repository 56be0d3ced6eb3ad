import SchemaDdl.Operation
import SchemaDdl.Text.Blank

/-!
# Valid operations

Before any SQL is written, an operation has to name what it needs. What an
operation requires is a list; it is valid when all of the list holds, and the
first requirement that does not hold is the error.
-/

namespace SchemaDdl

/-- Something that an operation requires of one of its fields. -/
inductive Requirement where
  | name (field value : String)
  | someColumn (field : String) (columns : List String)
  | statement (field text : String)
  deriving DecidableEq, Repr

namespace Requirement

def fault? : Requirement → Option String
  | name field value =>
    if Text.isBlank value then some (field ++ " is required")
    else
      (Identifier.fault? value).map fun fault =>
        field ++ " " ++ (DdlError.config fault.text).message
  | someColumn field columns =>
    if columns.isEmpty then some (field ++ " must name at least one column") else none
  | statement field text => if Text.isBlank text then some (field ++ " must not be empty") else none

def Holds (r : Requirement) : Prop := r.fault? = none

instance (r : Requirement) : Decidable r.Holds := inferInstanceAs (Decidable (_ = none))

theorem holds_name_iff {field value : String} :
    (name field value).Holds ↔ Text.isBlank value = false ∧ Identifier.Valid value := by
  rw [Holds, fault?, Identifier.Valid]
  split
  · next h => simp only [reduceCtorEq, h, Bool.true_eq_false, false_and]
  · next h => simp only [Option.map_eq_none_iff, eq_false_of_ne_true h, true_and]

theorem holds_someColumn_iff {field : String} {columns : List String} :
    (someColumn field columns).Holds ↔ columns ≠ [] := by
  cases columns with
  | nil => simp only [Holds, fault?, List.isEmpty_nil, if_true, reduceCtorEq, ne_eq,
      not_true_eq_false]
  | cons column rest => simp only [Holds, fault?, List.isEmpty_cons, Bool.false_eq_true,
      if_false, ne_eq, reduceCtorEq, not_false_eq_true]

theorem holds_statement_iff {field text : String} :
    (statement field text).Holds ↔ Text.isBlank text = false := by
  rw [Holds, fault?]
  split
  · next h => simp only [reduceCtorEq, h, Bool.true_eq_false]
  · next h => simp only [eq_false_of_ne_true h]

def optional (field : String) (value : Option String) : List Requirement :=
  (value.map (name field)).toList

def schema (object : ObjectName) : List Requirement := optional "schema" object.schema

def columns (field : String) (values : List String) : List Requirement :=
  someColumn field values :: values.map (name field)

def foreignKey (key : ForeignKey) : List Requirement :=
  optional "foreign_keys.name" key.name ++
    columns "foreign_keys.columns" key.columns ++
    [name "foreign_keys.principal_table" key.principal.name] ++
    optional "foreign_keys.principal_schema" key.principal.schema ++
    if key.principalColumns.isEmpty then []
    else columns "foreign_keys.principal_columns" key.principalColumns

def tableKey (field : String) (key : KeyConstraint) : List Requirement :=
  optional (field ++ ".name") key.name ++ columns (field ++ ".columns") key.columns

def addedKey (key : KeyConstraint) : List Requirement :=
  optional "name" key.name ++ columns "columns" key.columns

def object (o : ObjectName) : List Requirement := name "name" o.name :: schema o

def table (o : ObjectName) : List Requirement := name "table" o.name :: schema o

end Requirement

namespace Operation

open Requirement in
/-- What an operation requires, in the order in which it is checked. -/
def requirements : Operation → List Requirement
  | createTable d =>
    object d.table ++ d.columns.map (fun c => name "column name" c.name) ++
      d.primaryKey.toList.flatMap (tableKey "primary_key") ++
      d.uniqueKeys.flatMap (tableKey "unique_constraints") ++
      d.foreignKeys.flatMap foreignKey
  | alterTable t _ _ => object t
  | dropTable t => object t
  | addColumn t c => table t ++ [name "column name" c.name]
  | dropColumn t c => name "name" c :: table t
  | alterColumn t c _ => table t ++ [name "column name" c.name]
  | renameColumn t c newName => table t ++ [name "name" c, name "new_name" newName]
  | relocate _ r =>
    object r.object ++ optional "new_name" r.newName ++ optional "new_schema" r.newSchema
  | createIndex d => name "name" d.name :: table d.table ++ columns "columns" d.columns
  | dropIndex i _ => object i
  | ensureSchema s => [name "name" s]
  | dropSchema s => [name "name" s]
  | createDatabase d =>
    name "name" d.name :: optional "template" d.template ++ optional "tablespace" d.tablespace
  | dropDatabase n => [name "name" n]
  | alterDatabase _ => []
  | createSequence d => object d.sequence
  | alterSequence s _ => object s
  | restartSequence s _ => object s
  | dropSequence s => object s
  | addPrimaryKey t k => table t ++ addedKey k
  | addForeignKey t k => table t ++ foreignKey k
  | addUnique t k => table t ++ addedKey k
  | dropConstraint _ t c => name "name" c :: table t
  | sql text _ => [statement "sql" text]

/-- Refuses an operation for the first requirement that it does not meet. -/
def validate (op : Operation) : Result Unit :=
  match op.requirements.findSome? Requirement.fault? with
  | none => .ok ()
  | some text => .error (.invalidArgument op.kind text)

def Valid (op : Operation) : Prop := ∀ r ∈ op.requirements, r.Holds

instance (op : Operation) : Decidable op.Valid :=
  inferInstanceAs (Decidable (∀ r ∈ op.requirements, r.Holds))

theorem validate_eq_ok_iff {op : Operation} : op.validate = .ok () ↔ op.Valid := by
  rw [validate, Valid]
  split
  · next h => simpa [Requirement.Holds] using List.findSome?_eq_none_iff.1 h
  · next text h =>
    obtain ⟨r, hr, hf⟩ := List.exists_of_findSome?_eq_some h
    simp only [reduceCtorEq, false_iff]
    intro hall
    have hnone : r.fault? = none := hall r hr
    simp [hnone] at hf

end Operation

end SchemaDdl
