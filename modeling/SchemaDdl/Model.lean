/-!
# The target model

The schema that a migration is heading for, as far as it gives store types to
columns. A table without a schema is found only without one.
-/

namespace SchemaDdl

structure ModelColumn where
  name : String := ""
  storeType : Option String := none
  deriving DecidableEq, Repr

structure ModelTable where
  schema : Option String := none
  name : String := ""
  columns : List ModelColumn := []
  deriving DecidableEq, Repr

/-- The target schema. -/
structure Model where
  tables : List ModelTable := []
  deriving DecidableEq, Repr

namespace Model

/-- The first table of a schema with the name. -/
def table? (model : Model) (schema : Option String) (name : String) : Option ModelTable :=
  model.tables.find? fun t => t.name = name ∧ t.schema = schema

def storeType? (model : Model) (schema : Option String) (table column : String) :
    Option String := do
  let t ← model.table? schema table
  let c ← t.columns.find? (·.name = column)
  c.storeType

end Model

end SchemaDdl
