import SchemaDdl.Generator
import SchemaDdl.Operation

/-!
# Keys

The clauses of primary keys, unique keys and foreign keys, which stand both in
a table definition and after `ADD`.
-/

namespace SchemaDdl

def Render.appendColumns (columns : List String) : Render Unit := do
  let list ← ofResult (Identifier.delimitList columns)
  append list

namespace Statement

open Render

def constraintName (name : Option String) : Render Unit :=
  optionally name fun name => do
    append "CONSTRAINT "
    appendName { name }
    append " "

def keyClause (word : String) (key : KeyConstraint) : Render Unit := do
  constraintName key.name
  append word
  append " ("
  appendColumns key.columns
  append ")"

def primaryKeyClause (key : KeyConstraint) : Render Unit := keyClause "PRIMARY KEY" key

def uniqueClause (key : KeyConstraint) : Render Unit := keyClause "UNIQUE" key

/-- What happens on an event, unless it is nothing. -/
def actionClause (event : String) (action : ReferentialAction) : Render Unit :=
  onlyIf (action ≠ .noAction) (append (" ON " ++ event ++ " " ++ action.sql))

def foreignKeyClause (key : ForeignKey) : Render Unit := do
  constraintName key.name
  append "FOREIGN KEY ("
  appendColumns key.columns
  append ") REFERENCES "
  appendName key.principal
  onlyIf (key.principalColumns ≠ []) do
    append " ("
    appendColumns key.principalColumns
    append ")"
  actionClause "UPDATE" key.onUpdate
  actionClause "DELETE" key.onDelete

def addConstraint (g : Generator) (table : ObjectName) (clause : Render Unit) : Render Unit := do
  append "ALTER TABLE "
  appendName table
  append " ADD "
  clause
  g.terminate false

def dropConstraint (g : Generator) (table : ObjectName) (constraint : String) : Render Unit := do
  append "ALTER TABLE "
  appendName table
  append " DROP CONSTRAINT "
  appendName { name := constraint }
  g.terminate false

end Statement

end SchemaDdl
