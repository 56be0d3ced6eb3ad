import SchemaDdl.Operation.Validity
import SchemaDdl.Statement.Database
import SchemaDdl.Statement.Table

/-!
# Migrations

A migration is a list of operations. Each one is validated, written to the
script, and taken back as a whole if it fails half way.
-/

namespace SchemaDdl

namespace Generator

def dispatch (g : Generator) (op : Operation) (model : Option Model) : Render Unit :=
  match op with
  | .createTable d => Statement.createTable g d model true
  | .alterTable table annotations old => Statement.alterTable g table annotations old
  | .dropTable table => Statement.dropTable g table
  | .addColumn table column => Statement.addColumn g table column model true
  | .dropColumn table column => Statement.dropColumn g table column true
  | .alterColumn table column old => Statement.alterColumn g table column old model
  | .renameColumn table column newName =>
    match g.dialect with
    | .neutral => Render.unsupported "rename_column" column
    | .postgres _ _ => Statement.renameColumn g table column newName
  | .relocate kind r => Statement.relocate g kind r
  | .createIndex d => Statement.createIndex g d true
  | .dropIndex index _ => Statement.dropIndex g index
  | .ensureSchema schema => Statement.ensureSchema g schema
  | .dropSchema schema => Statement.dropSchema g schema
  | .createDatabase d => Statement.createDatabase g d
  | .dropDatabase name => Statement.dropDatabase g name
  | .alterDatabase annotations => Statement.alterDatabase g annotations
  | .createSequence d => Statement.createSequence g d true
  | .alterSequence sequence options => Statement.alterSequence g sequence options
  | .restartSequence sequence start => Statement.restartSequence g sequence start
  | .dropSequence sequence => Statement.dropSequence g sequence
  | .addPrimaryKey table key => Statement.addConstraint g table (Statement.primaryKeyClause key)
  | .addForeignKey table key => Statement.addConstraint g table (Statement.foreignKeyClause key)
  | .addUnique table key => Statement.addConstraint g table (Statement.uniqueClause key)
  | .dropConstraint _ table constraint => Statement.dropConstraint g table constraint
  | .sql text suppressed => Statement.rawSql text suppressed

end Generator

/-- A script that is being written, with the store types found so far. -/
structure Script where
  builder : Builder := {}
  memo : Memo := {}
  deriving Inhabited

namespace Script

/-- Writes a rendering to the script. What it has written before it failed stays. -/
def write (script : Script) (render : Render α) : Result α × Script :=
  let rendered := render script.memo
  (rendered.result, ⟨script.builder.run rendered.edits, rendered.memo⟩)

def compile (script : Script) (g : Generator) (model : Option Model) (op : Operation) :
    Result Unit × Script :=
  match op.validate with
  | .error e => (.error e, script)
  | .ok () =>
    match script.write (g.dispatch op model) with
    | (.ok (), written) => (.ok (), written)
    | (.error e, written) =>
      -- Nothing of a failed operation stays in the script.
      let restored := (written.builder.rollback? script.builder.mark).getD written.builder
      (.error e, { written with builder := restored })

/-- Compiles operations in order up to the first that fails. -/
def compileAll (script : Script) (g : Generator) (model : Option Model) :
    List Operation → Result Unit × Script
  | [] => (.ok (), script)
  | op :: ops =>
    match script.compile g model op with
    | (.ok (), script) => script.compileAll g model ops
    | (.error e, script) => (.error e, script)

end Script

namespace Generator

/-- The commands of a migration, found with the help of a memo. -/
def generateWith (g : Generator) (memo : Memo) (model : Option Model) (ops : List Operation) :
    Result (List Command) × Memo :=
  match ({ memo } : Script).compileAll g model ops with
  | (.ok (), script) => (.ok script.builder.build, script.memo)
  | (.error e, script) => (.error e, script.memo)

def generate (g : Generator) (model : Option Model) (ops : List Operation) :
    Result (List Command) :=
  (g.generateWith Memo.empty model ops).1

end Generator

end SchemaDdl
