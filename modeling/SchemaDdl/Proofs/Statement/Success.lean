import SchemaDdl.Proofs.Script.Success
import SchemaDdl.Proofs.Statement.SequenceName
import SchemaDdl.Proofs.StoreType.LogicalDepth
import SchemaDdl.Statement.Database
import SchemaDdl.Statement.Table

/-!
# When a statement succeeds

Names apart, a statement fails only for annotations without a meaning, for a
column or a sequence whose type is not known, and for what the version of the
server refuses.
-/

namespace SchemaDdl

open Render

theorem Version.demand_eq_ok_iff {v bound : Version} {feature : String} :
    v.demand bound feature = .ok () ↔ v.atLeast bound = true := by
  rw [demand]
  split <;> simp_all

def AnnotationView.Readable (bag : AnnotationBag) : Prop := ∃ view, ofBag bag = .ok view

def Interleave.Valid (interleave : Interleave) : Prop :=
  ObjectName.Valid ⟨interleave.schema, interleave.table⟩ ∧
    ∀ column ∈ interleave.columns, Identifier.Valid column

def Extension.Valid (extension : Extension) : Prop :=
  Identifier.Valid extension.name ∧ (∀ schema ∈ extension.schema, Identifier.Valid schema) ∧
    ∀ version ∈ extension.version, Identifier.Valid version

/-- The column names its type, or the model has it, or its logical type is stored. -/
def Column.Typed (column : Column) (table : ObjectName) (model : Option Model) : Prop :=
  (∃ storeType ∈ column.storeType, Text.isBlank storeType = false) ∨
    (∃ m ∈ model, (m.storeType? table.schema table.name column.name).isSome) ∨
    ∃ logical ∈ column.logical, logical.depth ≤ 1

namespace Generator

variable (g : Generator)

@[simp] theorem succeeds_endLine : g.endLine.Succeeds := succeeds_appendLine _

@[simp] theorem succeeds_terminate (suppressed : Bool) : (g.terminate suppressed).Succeeds := by
  simp [terminate]

@[simp] theorem succeeds_terminateIf (wanted : Bool) : (g.terminateIf wanted).Succeeds := by
  simp [terminateIf]

@[simp] theorem succeeds_statement (text : String) : (g.statement text).Succeeds := by
  simp [statement]

end Generator

namespace Statement

/-! ## Keys -/

@[simp] theorem succeeds_appendColumns {columns : List String} :
    (appendColumns columns).Succeeds ↔ ∀ column ∈ columns, Identifier.Valid column := by
  simp [appendColumns, succeeds_ofResult_bind, Identifier.exists_delimitList_iff]

@[simp] theorem succeeds_constraintName {name : Option String} :
    (constraintName name).Succeeds ↔ ∀ n ∈ name, Identifier.Valid n := by
  simp [constraintName, ObjectName.valid_of_name]

theorem succeeds_keyClause {word : String} {key : KeyConstraint} :
    (keyClause word key).Succeeds ↔ key.Valid := by
  simp [keyClause, KeyConstraint.Valid]

theorem succeeds_foreignKeyClause {key : ForeignKey} (h : key.Valid) :
    (foreignKeyClause key).Succeeds := by
  simp only [foreignKeyClause, actionClause, succeeds_then, succeeds_constraintName,
    succeeds_append, succeeds_appendColumns, succeeds_appendName, succeeds_onlyIf]
  exact ⟨h.name, trivial, h.columns, trivial, h.principal,
    fun _ => ⟨trivial, h.principalColumns, trivial⟩, fun _ => trivial, fun _ => trivial⟩

theorem succeeds_addConstraint {g : Generator} {table : ObjectName} {clause : Render Unit} :
    (addConstraint g table clause).Succeeds ↔ table.Valid ∧ clause.Succeeds := by
  simp [addConstraint]

theorem succeeds_dropConstraint {g : Generator} {table : ObjectName} {constraint : String} :
    (dropConstraint g table constraint).Succeeds ↔ table.Valid ∧ Identifier.Valid constraint := by
  simp [dropConstraint, ObjectName.valid_of_name]

/-! ## Sequences -/

theorem succeeds_namedSequenceType {logical : LogicalType} :
    (namedSequenceType logical).Succeeds ↔ logical.depth ≤ 1 := by
  rw [namedSequenceType]
  split
  · next h => simp [h, LogicalType.depth]
  · rw [succeeds_bind_const fun _ => iff_of_true (succeeds_pure _) trivial, and_true,
      succeeds_require, TypeQuery.exists_resolve_iff]

theorem succeeds_createSequence {g : Generator} {version : Version} {schema : String}
    (hg : g.dialect = .postgres version schema) {d : SequenceDefinition} {terminated : Bool}
    (h : d.sequence.Valid) :
    (createSequence g d terminated).Succeeds ↔
      (version.atLeast ⟨10, 0⟩ → d.logical.depth ≤ 1) := by
  simp only [createSequence, succeeds_then, succeeds_append, succeeds_appendName, h, true_and]
  rw [succeeds_bind_const (p := True) fun _ => by simp, and_true, sequenceType, hg]
  simp only
  split
  · next hversion => simp [hversion, succeeds_namedSequenceType]
  · next hversion => simp [hversion]

theorem succeeds_alterSequence {g : Generator} {sequence : ObjectName}
    {options : SequenceOptions} : (alterSequence g sequence options).Succeeds ↔ sequence.Valid := by
  simp [alterSequence]

theorem succeeds_restartSequence {g : Generator} {sequence : ObjectName} {start : Int64} :
    (restartSequence g sequence start).Succeeds ↔ sequence.Valid := by
  simp [restartSequence]

theorem succeeds_dropSequence {g : Generator} {sequence : ObjectName} :
    (dropSequence g sequence).Succeeds ↔ sequence.Valid := by
  simp [dropSequence]

/-! ## Columns -/

theorem succeeds_literal (value : Value) (storeType : Option String) :
    (Render.literal value storeType).Succeeds := by
  cases storeType with
  | none => exact succeeds_pure _
  | some name =>
    refine succeeds_bind_iff.2 ⟨_, rfl, ?_⟩
    split
    · exact succeeds_pure _
    · exact succeeds_pure _

theorem succeeds_defaultClause (value : Option Value) (sql : Option String) (storeType : String) :
    (defaultClause value sql storeType).Succeeds := by
  unfold defaultClause
  split
  · exact succeeds_pure _
  · obtain ⟨literal, hliteral⟩ := succeeds_literal _ _
    exact succeeds_bind_iff.2 ⟨literal, hliteral, succeeds_pure _⟩
  · exact succeeds_pure _

theorem succeeds_defaultChange (column : Column) (owned : Option String) (storeType : String) :
    (defaultChange column owned storeType).Succeeds := by
  unfold defaultChange
  simp only
  split
  · obtain ⟨clause, hclause⟩ := succeeds_defaultClause _ _ _
    exact succeeds_bind_iff.2 ⟨clause, hclause, succeeds_pure _⟩
  · exact succeeds_pure _

theorem succeeds_columnType {table : ObjectName} {column : Column} {model : Option Model} :
    (columnType table column model).Succeeds ↔ column.Typed table model := by
  rw [columnType, Column.Typed]
  cases hnamed : column.storeType.filter fun t => !Text.isBlank t with
  | some storeType =>
    obtain ⟨hstore, hblank⟩ := Option.filter_eq_some_iff.1 hnamed
    simp only [succeeds_pure, true_iff]
    exact .inl ⟨storeType, hstore, by simpa using hblank⟩
  | none =>
    -- Without a name of its own the column depends on the model, and then on its logical type.
    have hblank : ¬∃ storeType ∈ column.storeType, Text.isBlank storeType = false := by
      rintro ⟨storeType, hstore, h⟩
      rw [Option.mem_def.1 hstore] at hnamed
      simp [Option.filter, h] at hnamed
    cases hmodel : model.bind fun m => m.storeType? table.schema table.name column.name with
    | some storeType =>
      obtain ⟨m, hm, hstore⟩ := Option.bind_eq_some_iff.1 hmodel
      simp only [succeeds_pure, true_iff]
      exact .inr (.inl ⟨m, hm, by rw [hstore]; rfl⟩)
    | none =>
      have hmissing :
          ¬∃ m ∈ model, (m.storeType? table.schema table.name column.name).isSome := by
        rintro ⟨m, hm, h⟩
        rw [Option.mem_def.1 hm, Option.bind_some] at hmodel
        rw [hmodel] at h
        cases h
      cases hlogical : column.logical with
      | none =>
        simp only [hblank, hmissing, false_or]
        simp [Succeeds, ofResult, result]
      | some logical =>
        simp only [hblank, hmissing, false_or]
        rw [succeeds_bind_const fun _ => iff_of_true (succeeds_pure _) trivial, and_true,
          succeeds_require, TypeQuery.exists_resolve_iff]
        simp

@[simp] theorem succeeds_columnDefinitionOf {column : Column} {storeType : String} :
    (columnDefinitionOf column storeType).Succeeds ↔ Identifier.Valid column.name := by
  have hclause : (defaultClause column.defaultValue column.defaultSql storeType >>= append).Succeeds
      := (succeeds_bind_const fun _ => iff_of_true (succeeds_append _) trivial).2
        ⟨succeeds_defaultClause _ _ _, trivial⟩
  simp [columnDefinitionOf, hclause, ObjectName.valid_of_name]

theorem succeeds_columnDefinition {g : Generator} {version : Version} {schema : String}
    (hg : g.dialect = .postgres version schema) {table : ObjectName} {column : Column}
    {model : Option Model} (hname : Identifier.Valid column.name) :
    (columnDefinition g table column model).Succeeds ↔
      ∃ view, AnnotationView.ofBag column.annotations = .ok view ∧
        (column.computedSql.isSome → version.atLeast ⟨12, 0⟩) ∧
        (view.strategy.isIdentity → version.atLeast ⟨10, 0⟩) ∧ column.Typed table model := by
  rw [columnDefinition, hg]
  simp only [succeeds_ofResult_bind, succeeds_then, succeeds_onlyIf, succeeds_ofResult,
    Version.demand_eq_ok_iff]
  refine exists_congr fun view => and_congr_right fun _ => and_congr_right fun _ =>
    and_congr_right fun _ => ?_
  rw [succeeds_bind_const (p := True), succeeds_columnType, and_true]
  intro storeType
  split
  · simp [hname]
  · simp [hname]

theorem depth_sequenceLogical (storeType : String) : (sequenceLogical storeType).depth ≤ 1 := by
  unfold sequenceLogical
  split <;> decide

/-- The sequence behind a serial column can always be created. -/
theorem succeeds_createBackingSequence {g : Generator} {version : Version} {schema : String}
    (hg : g.dialect = .postgres version schema) {table : ObjectName} {column : Column}
    (strategy : GenerationStrategy) (storeType : String) (htable : table.Valid)
    (hname : Identifier.Valid column.name) :
    (createBackingSequence g table column strategy storeType).Succeeds := by
  unfold createBackingSequence
  split
  · have hsequence : (⟨table.schema, BackingSequence.name table.name column.name⟩ :
        ObjectName).Valid := ⟨BackingSequence.valid_name htable.1 hname, htable.2⟩
    simp only [succeeds_ofResult_bind, ObjectName.delimit_eq_ok_iff, succeeds_then]
    refine ⟨_, ⟨hsequence, rfl⟩, ?_, g.succeeds_endLine, succeeds_pure _⟩
    exact (succeeds_createSequence hg hsequence).2 fun _ => depth_sequenceLogical storeType
  · exact succeeds_pure _

theorem succeeds_columnChanges (g : Generator) (tableName columnName : String) (column : Column)
    (view oldView : AnnotationView) (storeType : String) (owned : Option String)
    (hname : Identifier.Valid column.name) :
    (columnChanges g tableName columnName column view oldView storeType owned).Succeeds := by
  simp only [columnChanges, succeeds_then, Generator.succeeds_statement, true_and]
  refine (succeeds_bind_const (p := True) fun change => ?_).2
    ⟨succeeds_defaultChange column owned storeType, trivial⟩
  simp [commentOnColumn, ObjectName.valid_of_name, hname]

theorem succeeds_addColumn {g : Generator} {version : Version} {schema : String}
    (hg : g.dialect = .postgres version schema) {table : ObjectName} {column : Column}
    {model : Option Model} {terminated : Bool} (htable : table.Valid)
    (hname : Identifier.Valid column.name) :
    (addColumn g table column model terminated).Succeeds ↔
      (isSystemColumn column.name = false → (columnDefinition g table column model).Succeeds) := by
  rw [addColumn, hg]
  simp only
  split
  · next hsystem => simp [hsystem]
  · next hsystem =>
    simp only [eq_false_of_ne_true hsystem, forall_const, succeeds_ofResult_bind, succeeds_then,
      addColumnClause, succeeds_append, succeeds_appendName, htable, true_and]
    constructor
    · rintro ⟨view, -, h, -⟩
      exact h
    · intro h
      obtain ⟨view, hview, -⟩ := (succeeds_columnDefinition hg hname).1 h
      refine ⟨view, hview, h, ?_, g.succeeds_terminateIf _⟩
      simp [commentOnColumn, succeeds_ofResult_bind, ObjectName.delimit_eq_ok_iff, htable,
        ObjectName.valid_of_name, hname]

/-- Both bags are read even for a column of the server. -/
theorem succeeds_alterColumn {g : Generator} {version : Version} {schema : String}
    (hg : g.dialect = .postgres version schema) {table : ObjectName} {column old : Column}
    {model : Option Model} (htable : table.Valid) (hname : Identifier.Valid column.name) :
    (alterColumn g table column old model).Succeeds ↔
      ∃ view, AnnotationView.ofBag column.annotations = .ok view ∧
        ∃ oldView, AnnotationView.ofBag old.annotations = .ok oldView ∧
          (isSystemColumn column.name = false →
            column.Typed table model ∧
              (view.strategy.isIdentity || oldView.strategy.isIdentity →
                version.atLeast ⟨10, 0⟩)) := by
  rw [alterColumn, hg]
  simp only [alterPostgresColumn, succeeds_ofResult_bind]
  refine exists_congr fun view => and_congr_right fun _ => exists_congr fun oldView =>
    and_congr_right fun _ => ?_
  split
  · next hsystem => simp [hsystem]
  · next hsystem =>
    simp only [eq_false_of_ne_true hsystem, forall_const, ← succeeds_columnType]
    refine succeeds_bind_const fun storeType => ?_
    simp only [succeeds_then, succeeds_onlyIf, succeeds_ofResult, Version.demand_eq_ok_iff,
      succeeds_ofResult_bind, ObjectName.delimit_eq_ok_iff, Identifier.delimit_eq_ok_iff]
    refine and_iff_left ⟨_, ⟨htable, rfl⟩, _, ⟨hname, rfl⟩, ?_⟩
    obtain ⟨owned, howned⟩ :=
      succeeds_createBackingSequence hg view.strategy storeType htable hname
    exact succeeds_bind_iff.2 ⟨owned, howned, succeeds_columnChanges _ _ _ _ _ _ _ _ hname⟩

theorem succeeds_dropColumn {g : Generator} {table : ObjectName} {column : String}
    {terminated : Bool} (htable : table.Valid) (hname : Identifier.Valid column) :
    (dropColumn g table column terminated).Succeeds := by
  rw [dropColumn]
  split
  · exact succeeds_pure _
  · simp [dropColumnClause, htable, ObjectName.valid_of_name, hname]

theorem succeeds_renameColumn {g : Generator} {table : ObjectName} {column newName : String} :
    (renameColumn g table column newName).Succeeds ↔
      table.Valid ∧ Identifier.Valid column ∧ Identifier.Valid newName := by
  simp [renameColumn, ObjectName.valid_of_name]

/-! ## Tables and indexes -/

theorem succeeds_columnComments {g : Generator} {table : String}
    {comments : List (String × Option String)} (h : ∀ c ∈ comments, Identifier.Valid c.1) :
    (columnComments g table comments).Succeeds := by
  induction comments with
  | nil => exact succeeds_pure _
  | cons first rest ih =>
    obtain ⟨hfirst, hrest⟩ := List.forall_mem_cons.1 h
    obtain ⟨column, comment⟩ := first
    cases comment with
    | none => exact ih hrest
    | some comment =>
      simp only [columnComments, succeeds_then, commentOnColumn, succeeds_append,
        succeeds_appendName, ObjectName.valid_of_name]
      exact ⟨g.succeeds_endLine, ⟨trivial, hfirst, trivial⟩, ih hrest⟩

@[simp] theorem succeeds_interleaveClause {interleave : Option Interleave} :
    (interleaveClause interleave).Succeeds ↔ ∀ i ∈ interleave, i.Valid := by
  simp only [interleaveClause, succeeds_optionally, succeeds_ofResult_bind]
  refine forall₂_congr fun i _ => ?_
  simp [Identifier.delimitList_eq_ok_iff, Interleave.Valid, and_comm]

theorem commentOf_eq_ok_iff {column : Column} {comment : String × Option String} :
    commentOf column = .ok comment ↔
      ∃ view, AnnotationView.ofBag column.annotations = .ok view ∧
        comment = (column.name, view.comment) := by
  simp only [commentOf, Result.bind_eq_ok_iff, Result.pure_eq_ok_iff]

theorem valid_of_mapM_commentOf {columns : List Column} {comments : List (String × Option String)}
    (h : columns.mapM commentOf = .ok comments)
    (hnames : ∀ column ∈ columns, Identifier.Valid column.name) :
    ∀ c ∈ comments, Identifier.Valid c.1 := by
  intro c hc
  obtain ⟨column, hcolumn, hof⟩ := Result.exists_of_mem_mapM h hc
  obtain ⟨_, -, rfl⟩ := commentOf_eq_ok_iff.1 hof
  exact hnames column hcolumn

/-- The columns of a table decide whether its body can be written. -/
theorem succeeds_tableBody {g : Generator} {d : TableDefinition} {model : Option Model}
    (hprimary : ∀ key ∈ d.primaryKey, key.Valid) (hunique : ∀ key ∈ d.uniqueKeys, key.Valid)
    (hforeign : ∀ key ∈ d.foreignKeys, key.Valid) :
    (tableBody g d model).Succeeds ↔
      ∀ column ∈ d.columns, (columnDefinition g d.table column model).Succeeds := by
  have hkeys : ∀ part ∈ d.primaryKey.toList.map primaryKeyClause ++
      d.uniqueKeys.map uniqueClause ++ d.foreignKeys.map foreignKeyClause, part.Succeeds := by
    simp only [List.forall_mem_append, List.forall_mem_map, Option.mem_toList]
    exact ⟨⟨fun key hkey => succeeds_keyClause.2 (hprimary key hkey),
      fun key hkey => succeeds_keyClause.2 (hunique key hkey)⟩,
      fun key hkey => succeeds_foreignKeyClause (hforeign key hkey)⟩
  simp only [tableBody, succeeds_then, succeeds_appendLine, succeeds_indent, succeeds_commaLines,
    succeeds_breakLine, succeeds_dedent, succeeds_append, true_and, and_true, tableElements,
    List.append_assoc]
  rw [List.forall_mem_append, ← List.append_assoc, and_iff_left hkeys, List.forall_mem_map]

theorem succeeds_createTable {g : Generator} {version : Version} {schema : String}
    (hg : g.dialect = .postgres version schema) {d : TableDefinition} {model : Option Model}
    {terminated : Bool} (htable : d.table.Valid)
    (hcolumns : ∀ column ∈ d.columns, Identifier.Valid column.name)
    (hprimary : ∀ key ∈ d.primaryKey, key.Valid) (hunique : ∀ key ∈ d.uniqueKeys, key.Valid)
    (hforeign : ∀ key ∈ d.foreignKeys, key.Valid) :
    (createTable g d model terminated).Succeeds ↔
      ∃ view, AnnotationView.ofBag d.annotations = .ok view ∧
        (∀ column ∈ TableDefinition.userColumns d.columns,
          (columnDefinition g d.table column model).Succeeds) ∧
        ∀ i ∈ view.interleave, i.Valid := by
  have huser : ∀ column ∈ TableDefinition.userColumns d.columns,
      Identifier.Valid column.name := fun column hcolumn =>
    hcolumns column (List.mem_filter.1 hcolumn).1
  have hbody :
      (tableBody g { d with columns := TableDefinition.userColumns d.columns } model).Succeeds ↔
        ∀ column ∈ TableDefinition.userColumns d.columns,
          (columnDefinition g d.table column model).Succeeds :=
    succeeds_tableBody hprimary hunique hforeign
  rw [createTable, hg]
  simp only [createPostgresTable, succeeds_ofResult_bind, ObjectName.delimit_eq_ok_iff]
  refine exists_congr fun view => and_congr_right fun _ => ?_
  constructor
  · rintro ⟨comments, -, _, -, h⟩
    simp only [succeeds_then, hbody, succeeds_interleaveClause] at h
    exact ⟨h.2.1, h.2.2.1⟩
  · rintro ⟨hdefinitions, hinterleave⟩
    -- The definitions read the same annotations as the comments do.
    obtain ⟨comments, hcomments⟩ := Result.exists_mapM_iff.2 fun column hcolumn =>
      have hreadable := (succeeds_columnDefinition hg (huser column hcolumn)).1
        (hdefinitions column hcolumn)
      ⟨(column.name, hreadable.choose.comment),
        commentOf_eq_ok_iff.2 ⟨_, hreadable.choose_spec.1, rfl⟩⟩
    have hnames : ∀ c ∈ comments, Identifier.Valid c.1 := valid_of_mapM_commentOf hcomments huser
    refine ⟨comments, hcomments, _, ⟨htable, rfl⟩, ?_⟩
    simp only [succeeds_then, hbody, succeeds_interleaveClause, succeeds_columnComments hnames,
      Generator.succeeds_terminateIf, succeeds_append, storageClause, succeeds_onlyIf,
      succeeds_breakLine, succeeds_optionally, Generator.succeeds_endLine, implies_true, and_true,
      true_and]
    exact ⟨hdefinitions, hinterleave⟩

@[simp] theorem succeeds_batch (g : Generator) (statements : List String) :
    (batch g statements).Succeeds := by
  unfold batch
  split
  · exact succeeds_pure _
  · simp

theorem succeeds_alterTable {g : Generator} {version : Version} {schema : String}
    (hg : g.dialect = .postgres version schema) {table : ObjectName}
    {annotations old : AnnotationBag} (htable : table.Valid) :
    (alterTable g table annotations old).Succeeds ↔
      AnnotationView.Readable annotations ∧ AnnotationView.Readable old := by
  rw [alterTable, hg]
  simp [succeeds_ofResult_bind, ObjectName.delimit_eq_ok_iff, htable, AnnotationView.Readable]

theorem succeeds_createIndex {g : Generator} {version : Version} {schema : String}
    (hg : g.dialect = .postgres version schema) {d : IndexDefinition} {terminated : Bool}
    (hname : Identifier.Valid d.name) (htable : d.table.Valid)
    (hcolumns : ∀ column ∈ d.columns, Identifier.Valid column) :
    (createIndex g d terminated).Succeeds ↔ AnnotationView.Readable d.annotations := by
  rw [createIndex, hg, AnnotationView.Readable]
  simp only [createPostgresIndex, succeeds_ofResult_bind]
  refine exists_congr fun view => and_iff_left ?_
  simp [filterClause, ObjectName.valid_of_name, hname, htable]
  exact hcolumns

theorem succeeds_dropTable {g : Generator} {table : ObjectName} :
    (dropTable g table).Succeeds ↔ table.Valid := by
  simp [dropTable]

theorem succeeds_dropIndex {g : Generator} {version : Version} {schema : String}
    (hg : g.dialect = .postgres version schema) {index : ObjectName} :
    (dropIndex g index).Succeeds ↔ index.Valid := by
  rw [dropIndex, hg]
  simp

/-! ## Databases and schemas -/

@[simp] theorem succeeds_namedClause {keyword : String} {name : Option String} :
    (namedClause keyword name).Succeeds ↔ ∀ n ∈ name, Identifier.Valid n := by
  simp [namedClause, ObjectName.valid_of_name]

theorem succeeds_alterDatabase {g : Generator} {version : Version} {schema : String}
    (hg : g.dialect = .postgres version schema) {annotations : AnnotationBag} :
    (alterDatabase g annotations).Succeeds ↔
      ∃ view, AnnotationView.ofBag annotations = .ok view ∧ ∀ e ∈ view.extensions, e.Valid := by
  rw [alterDatabase, hg]
  simp [succeeds_ofResult_bind, createExtension, Extension.Valid, ObjectName.valid_of_name]

theorem succeeds_createDatabase {g : Generator} {version : Version} {schema : String}
    (hg : g.dialect = .postgres version schema) {d : DatabaseDefinition} :
    (createDatabase g d).Succeeds ↔
      Identifier.Valid d.name ∧ (∀ n ∈ d.template, Identifier.Valid n) ∧
        ∀ n ∈ d.tablespace, Identifier.Valid n := by
  rw [createDatabase, hg]
  simp [ObjectName.valid_of_name]

theorem succeeds_dropDatabase {g : Generator} {version : Version} {schema : String}
    (hg : g.dialect = .postgres version schema) {name : String} :
    (dropDatabase g name).Succeeds ↔ Identifier.Valid name := by
  rw [dropDatabase, hg]
  simp [succeeds_ofResult_bind, Identifier.delimit_eq_ok_iff]

theorem succeeds_ensureSchema {g : Generator} {version : Version} {defaultSchema : String}
    (hg : g.dialect = .postgres version defaultSchema) {name : String}
    (h : Identifier.Valid name) : (ensureSchema g name).Succeeds := by
  rw [ensureSchema, hg]
  simp only
  split
  · exact succeeds_pure _
  · simp [ObjectName.valid_of_name, h]

theorem succeeds_dropSchema {g : Generator} {name : String} :
    (dropSchema g name).Succeeds ↔ Identifier.Valid name := by
  simp [dropSchema, ObjectName.valid_of_name]

theorem succeeds_rawSql (text : String) (suppressed : Bool) :
    (rawSql text suppressed).Succeeds := by
  simp [rawSql]

theorem succeeds_relocate {g : Generator} {version : Version} {schema : String}
    (hg : g.dialect = .postgres version schema) {kind : ObjectKind} {r : Relocation}
    (hobject : r.object.Valid) (hname : ∀ name ∈ r.newName, Identifier.Valid name)
    (hschema : ∀ schema ∈ r.newSchema, Identifier.Valid schema) :
    (relocate g kind r).Succeeds := by
  have hnew (p : String → Bool) : ∀ name ∈ r.newName.filter p, Identifier.Valid name :=
    fun name hmem => hname name (Option.filter_eq_some_iff.1 hmem).1
  have hmoved (p : String → Bool) : ∀ name ∈ r.newSchema.filter p, Identifier.Valid name :=
    fun name hmem => hschema name (Option.filter_eq_some_iff.1 hmem).1
  have hrenamed (p : String → Bool) :
      ObjectName.Valid ⟨r.object.schema, (r.newName.filter p).getD r.object.name⟩ := by
    refine ⟨?_, hobject.2⟩
    cases hfilter : r.newName.filter p with
    | none => exact hobject.1
    | some name => exact hnew p name hfilter
  rw [relocate, hg]
  simp only [renameTo, moveTo, succeeds_then, succeeds_optionally, succeeds_append,
    succeeds_appendName, ObjectName.valid_of_name, Generator.succeeds_endLine, succeeds_onlyIf,
    succeeds_close, true_and, and_true, implies_true]
  exact ⟨fun name hmem => ⟨hobject, hnew _ name hmem⟩,
    fun name hmem => ⟨hrenamed _, hmoved _ name hmem⟩⟩

end Statement

end SchemaDdl
