import SchemaDdl.Proofs.Annotation.Reading
import SchemaDdl.Proofs.Composition
import SchemaDdl.Proofs.Statement.Success

/-!
# What the dialects share

Where an operation says nothing that only a server of its own understands, the
dialect of the server writes what the neutral one writes: the same commands, or
the same error.
-/

namespace SchemaDdl

open Render Statement

namespace Operation

def annotationBags : Operation → List AnnotationBag
  | createTable d => d.annotations :: d.columns.map Column.annotations
  | alterTable _ annotations old => [annotations, old]
  | addColumn _ column => [column.annotations]
  | createIndex d => [d.annotations]
  | _ => []

def definedColumns : Operation → List Column
  | createTable d => d.columns
  | addColumn _ column => [column]
  | _ => []

def namedColumns : Operation → List String
  | dropColumn _ column => [column]
  | op => op.definedColumns.map Column.name

/-- The operation is of a kind that every dialect writes, and says nothing that is special to the
server or too new for it. -/
structure Portable (version : Version) (op : Operation) : Prop where
  kind : op.kind ∈ ["create_table", "alter_table", "add_column", "drop_column", "create_index",
    "create_sequence"]
  foreign : ∀ bag ∈ op.annotationBags, bag.Foreign
  named : ∀ name ∈ op.namedColumns, isSystemColumn name = false
  computed : (∃ column ∈ op.definedColumns, column.computedSql.isSome) → version.atLeast ⟨12, 0⟩
  sequence : op.kind = "create_sequence" → version.atLeast ⟨10, 0⟩

end Operation

namespace Statement

variable {terminator : String} {version : Version} {schema : String} {model : Option Model}

theorem columnDefinition_neutral {column : Column} (hforeign : column.annotations.Foreign)
    (hcomputed : column.computedSql.isSome → version.atLeast ⟨12, 0⟩) (table : ObjectName) :
    columnDefinition ⟨terminator, .postgres version schema⟩ table column model =
      columnDefinition ⟨terminator, .neutral⟩ table column model := by
  have hdemand : onlyIf column.computedSql.isSome
      (ofResult (version.demand ⟨12, 0⟩ "Generated columns")) = pure () := by
    rw [onlyIf]
    split
    · next hsome =>
      rw [Version.demand_eq_ok_iff.2 (hcomputed hsome)]
      rfl
    · rfl
  simp only [columnDefinition, AnnotationView.ofBag_of_foreign hforeign, hdemand]
  rfl

theorem tableBody_neutral {d : TableDefinition}
    (hforeign : ∀ column ∈ d.columns, column.annotations.Foreign)
    (hcomputed : ∀ column ∈ d.columns, column.computedSql.isSome → version.atLeast ⟨12, 0⟩) :
    tableBody ⟨terminator, .postgres version schema⟩ d model =
      tableBody ⟨terminator, .neutral⟩ d model := by
  have hcolumns : d.columns.map (fun column =>
        columnDefinition ⟨terminator, .postgres version schema⟩ d.table column model) =
      d.columns.map fun column =>
        columnDefinition ⟨terminator, .neutral⟩ d.table column model :=
    List.map_congr_left fun column hcolumn =>
      columnDefinition_neutral (hforeign column hcolumn) (hcomputed column hcolumn) d.table
  simp only [tableBody, tableElements, hcolumns]

theorem addColumn_neutral {column : Column} (hforeign : column.annotations.Foreign)
    (hname : isSystemColumn column.name = false)
    (hcomputed : column.computedSql.isSome → version.atLeast ⟨12, 0⟩) (table : ObjectName) :
    addColumn ⟨terminator, .postgres version schema⟩ table column model true =
      addColumn ⟨terminator, .neutral⟩ table column model true := by
  simp only [addColumn, hname, addColumnClause, columnDefinition_neutral hforeign hcomputed,
    AnnotationView.ofBag_of_foreign hforeign]
  rfl

theorem dropColumn_neutral {column : String} (hname : isSystemColumn column = false)
    (table : ObjectName) :
    dropColumn ⟨terminator, .postgres version schema⟩ table column true =
      dropColumn ⟨terminator, .neutral⟩ table column true := by
  simp only [dropColumn, hname]
  rfl

/-- Without a method both renderings of an index are the same. -/
theorem createPostgresIndex_of_indexMethod {d : IndexDefinition} {view : AnnotationView}
    (hview : AnnotationView.ofBag d.annotations = .ok view) (hmethod : view.indexMethod = none)
    (g : Generator) (terminated : Bool) :
    createPostgresIndex g d terminated = createNeutralIndex g d terminated := by
  simp only [createPostgresIndex, hview, ofResult_ok_bind, hmethod]
  rfl

theorem createIndex_neutral {d : IndexDefinition} (hforeign : d.annotations.Foreign) :
    createIndex ⟨terminator, .postgres version schema⟩ d true =
      createIndex ⟨terminator, .neutral⟩ d true :=
  createPostgresIndex_of_indexMethod (AnnotationView.ofBag_of_foreign hforeign) rfl _ _

theorem createSequence_neutral (hversion : version.atLeast ⟨10, 0⟩) (d : SequenceDefinition) :
    createSequence ⟨terminator, .postgres version schema⟩ d true =
      createSequence ⟨terminator, .neutral⟩ d true := by
  simp only [createSequence, sequenceType, hversion, if_true]
  rfl

theorem alterTable_neutral {table : ObjectName} {annotations old : AnnotationBag}
    (htable : table.Valid) (hforeign : annotations.Foreign) (hold : old.Foreign) :
    alterTable ⟨terminator, .postgres version schema⟩ table annotations old =
      alterTable ⟨terminator, .neutral⟩ table annotations old := by
  simp only [alterTable, AnnotationView.ofBag_of_foreign hforeign,
    AnnotationView.ofBag_of_foreign hold, ObjectName.delimit_eq_ok_iff.2 ⟨htable, rfl⟩]
  rfl

theorem mapM_commentOf_of_foreign {columns : List Column}
    (h : ∀ column ∈ columns, column.annotations.Foreign) :
    columns.mapM commentOf = .ok (columns.map fun column => (column.name, none)) := by
  induction columns with
  | nil => rfl
  | cons column rest ih =>
    obtain ⟨hcolumn, hrest⟩ := List.forall_mem_cons.1 h
    have hcomment : commentOf column = .ok (column.name, none) :=
      commentOf_eq_ok_iff.2 ⟨{}, AnnotationView.ofBag_of_foreign hcolumn, rfl⟩
    rw [List.mapM_cons, hcomment, ih hrest]
    rfl

theorem columnComments_none (g : Generator) (table : String) (columns : List Column) :
    columnComments g table (columns.map fun column => (column.name, none)) = pure () := by
  induction columns with
  | nil => rfl
  | cons column rest ih => exact ih

/-- The same words are written in one piece and in two. -/
theorem createTable_neutral (terminator schema : String) (model : Option Model)
    {d : TableDefinition} (htable : d.table.Valid)
    (hforeign : d.annotations.Foreign)
    (hcolumns : ∀ column ∈ d.columns, column.annotations.Foreign)
    (hnames : ∀ column ∈ d.columns, isSystemColumn column.name = false)
    (hcomputed : ∀ column ∈ d.columns, column.computedSql.isSome → version.atLeast ⟨12, 0⟩) :
    ∃ rest : Render Unit,
      createTable ⟨terminator, .postgres version schema⟩ d model true =
        write (.append ("CREATE TABLE " ++ d.table.quoted)) rest ∧
      createTable ⟨terminator, .neutral⟩ d model true =
        write (.append "CREATE TABLE ") (write (.append d.table.quoted) rest) := by
  have huser : TableDefinition.userColumns d.columns = d.columns := by
    refine List.filter_eq_self.2 fun column hcolumn => ?_
    rw [hnames column hcolumn]
    rfl
  have hdelimit : d.table.delimit = .ok d.table.quoted :=
    ObjectName.delimit_eq_ok_iff.2 ⟨htable, rfl⟩
  refine ⟨tableBody ⟨terminator, .neutral⟩ d model >>= fun _ =>
    Generator.terminateIf ⟨terminator, .neutral⟩ true, ?_, ?_⟩
  · have hwords : "CREATE " ++ "" ++ "TABLE " = "CREATE TABLE " := by decide
    simp only [createTable, createPostgresTable, AnnotationView.ofBag_of_foreign hforeign, huser,
      mapM_commentOf_of_foreign hcolumns, hdelimit, ofResult_ok_bind, columnComments_none,
      tableBody_neutral hcolumns hcomputed, Bool.false_eq_true, if_false, hwords]
    rfl
  · simp only [createTable, appendName, hdelimit]
    rfl

end Statement

namespace Generator

variable {model : Option Model}

theorem commandsOf_eq {g other : Generator} {op : Operation}
    (h : op.Valid → (g.dispatch op model).result = (other.dispatch op model).result ∧
      (g.dispatch op model).commands = (other.dispatch op model).commands) :
    g.commandsOf model op = other.commandsOf model op := by
  rw [commandsOf, commandsOf]
  cases hvalidate : op.validate with
  | error e => rfl
  | ok =>
    obtain ⟨hresult, hcommands⟩ := h (Operation.validate_eq_ok_iff.1 hvalidate)
    rw [hresult, hcommands]

theorem commandsOf_neutral {terminator : String} {version : Version} {schema : String}
    {op : Operation} (h : op.Portable version) :
    (⟨terminator, .postgres version schema⟩ : Generator).commandsOf model op =
      (⟨terminator, .neutral⟩ : Generator).commandsOf model op := by
  obtain ⟨hkind, hforeign, hnamed, hcomputed, hsequence⟩ := h
  refine commandsOf_eq fun hvalid => ?_
  have hsame {r s : Render Unit} (heq : r = s) : r.result = s.result ∧ r.commands = s.commands :=
    heq ▸ ⟨rfl, rfl⟩
  cases op with
  | createTable d =>
    simp only [Operation.requirements, Operation.Valid, List.forall_mem_append] at hvalid
    obtain ⟨htable, hcolumns⟩ := List.forall_mem_cons.1 hforeign
    obtain ⟨rest, hpostgres, hneutral⟩ := createTable_neutral terminator schema model
      (Requirement.valid_of_object hvalid.1.1.1.1) htable (List.forall_mem_map.1 hcolumns)
      (List.forall_mem_map.1 hnamed) fun column hcolumn hsome => hcomputed ⟨column, hcolumn, hsome⟩
    simp only [dispatch, hpostgres, hneutral]
    exact ⟨rfl, commands_write_append _ _ rest⟩
  | alterTable table annotations old =>
    obtain ⟨hannotations, hold⟩ := List.forall_mem_cons.1 hforeign
    exact hsame (alterTable_neutral (Requirement.valid_of_object hvalid) hannotations
      (List.forall_mem_singleton.1 hold))
  | addColumn table column =>
    exact hsame (addColumn_neutral (List.forall_mem_singleton.1 hforeign)
      (hnamed column.name List.mem_cons_self)
      (fun hsome => hcomputed ⟨column, List.mem_singleton.2 rfl, hsome⟩) table)
  | dropColumn table column =>
    exact hsame (dropColumn_neutral (hnamed column List.mem_cons_self) table)
  | createIndex d => exact hsame (createIndex_neutral (List.forall_mem_singleton.1 hforeign))
  | createSequence d => exact hsame (createSequence_neutral (hsequence rfl) d)
  -- The kinds that are left are written for a server only.
  | relocate kind r =>
    cases kind <;> simp [Operation.kind, ObjectKind.word] at hkind
  | dropConstraint kind table constraint =>
    cases kind <;> simp [Operation.kind, ConstraintKind.word] at hkind
  | _ => simp [Operation.kind] at hkind

/-- On a portable operation both dialects give the same commands or the same error. -/
theorem generateWith_neutral (terminator : String) (version : Version) (schema : String)
    (asked askedThen : List TypeQuery) (model : Option Model) (op : Operation)
    (h : op.Portable version) :
    ((⟨terminator, .postgres version schema⟩ : Generator).generateWith (.after asked) model
      [op]).1 =
    ((⟨terminator, .neutral⟩ : Generator).generateWith (.after askedThen) model [op]).1 := by
  rw [generateWith_eq _ _ _ (Memo.sound_after _), generateWith_eq _ _ _ (Memo.sound_after _),
    commandsOfAll_singleton, commandsOfAll_singleton]
  exact commandsOf_neutral h

/-- A computed column, an annotation of someone else, and a key. -/
theorem generateWith_neutral_table :
    let op : Operation := .createTable {
      table := { schema := some "app", name := "t" }
      columns := [
        { name := "id", logical := some (.scalar .int32) },
        { name := "twice", storeType := some "integer", computedSql := some "id * 2"
          annotations := .ofList [("Other:Comment", .text "ignored")] }]
      primaryKey := some { columns := ["id"] } }
    op.Portable ⟨12, 0⟩ ∧
      ((⟨";", .postgres ⟨12, 0⟩ "public"⟩ : Generator).generateWith (.after []) none [op]).1 =
        ((⟨";", .neutral⟩ : Generator).generateWith (.after []) none [op]).1 := by
  intro op
  have h : op.Portable ⟨12, 0⟩ := by
    refine ⟨by decide, ?_, ?_, fun _ => rfl, fun _ => rfl⟩
    · decide +kernel
    · decide
  exact ⟨h, generateWith_neutral ";" ⟨12, 0⟩ "public" [] [] none op h⟩

end Generator

end SchemaDdl
