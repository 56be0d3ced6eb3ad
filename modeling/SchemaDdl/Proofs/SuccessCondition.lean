import SchemaDdl.Migration
import SchemaDdl.Proofs.Statement.Success

/-!
# When an operation compiles

Besides its names, which are checked before anything is written, an operation
needs annotations with a meaning, columns with a type, a server that is new
enough, and names in its annotations that can be written. Nothing else makes
it fail.
-/

namespace SchemaDdl

open Render Statement

namespace Operation

/-- The annotations that are read. Those of a column of the server are read only to alter it. -/
def bags : Operation → List AnnotationBag
  | createTable d =>
    d.annotations :: (TableDefinition.userColumns d.columns).map Column.annotations
  | alterTable _ annotations old => [annotations, old]
  | addColumn _ column => (TableDefinition.userColumns [column]).map Column.annotations
  | alterColumn _ column old => [column.annotations, old.annotations]
  | createIndex d => [d.annotations]
  | alterDatabase annotations => [annotations]
  | _ => []

def newColumns : Operation → List Column
  | createTable d => TableDefinition.userColumns d.columns
  | addColumn _ column => TableDefinition.userColumns [column]
  | _ => []

def targets : Operation → List (ObjectName × Column)
  | createTable d => (TableDefinition.userColumns d.columns).map (d.table, ·)
  | addColumn table column => (TableDefinition.userColumns [column]).map (table, ·)
  | alterColumn table column _ => (TableDefinition.userColumns [column]).map (table, ·)
  | _ => []

/-- The annotations whose strategy counts, that of an altered column before it as well. -/
def strategyBags : Operation → List AnnotationBag
  | alterColumn _ column old =>
    if isSystemColumn column.name then [] else [column.annotations, old.annotations]
  | op => op.newColumns.map Column.annotations

def AnnotatedNames : Operation → Prop
  | createTable d =>
    ∀ view, AnnotationView.ofBag d.annotations = .ok view → ∀ i ∈ view.interleave, i.Valid
  | alterDatabase annotations =>
    ∀ view, AnnotationView.ofBag annotations = .ok view → ∀ e ∈ view.extensions, e.Valid
  | _ => True

/-- A sequence has a type that is stored. Before version 10 its type is not looked at. -/
def SequenceTyped (version : Version) : Operation → Prop
  | createSequence d => version.atLeast ⟨10, 0⟩ → d.logical.depth ≤ 1
  | _ => True

/-- All that an operation needs besides valid names. -/
structure Writable (version : Version) (model : Option Model) (op : Operation) : Prop where
  readable : ∀ bag ∈ op.bags, AnnotationView.Readable bag
  typed : ∀ target ∈ op.targets, target.2.Typed target.1 model
  computed : ∀ column ∈ op.newColumns, column.computedSql.isSome → version.atLeast ⟨12, 0⟩
  identity : ∀ bag ∈ op.strategyBags, ∀ view, AnnotationView.ofBag bag = .ok view →
    view.strategy.isIdentity → version.atLeast ⟨10, 0⟩
  annotatedNames : op.AnnotatedNames
  sequenceTyped : op.SequenceTyped version

end Operation

theorem Statement.succeeds_columnDefinitions {g : Generator} {version : Version} {schema : String}
    (hg : g.dialect = .postgres version schema) {table : ObjectName} {model : Option Model}
    {columns : List Column} (hnames : ∀ column ∈ columns, Identifier.Valid column.name) :
    (∀ column ∈ columns, (columnDefinition g table column model).Succeeds) ↔
      (∀ bag ∈ columns.map Column.annotations, AnnotationView.Readable bag) ∧
        (∀ target ∈ columns.map (table, ·), target.2.Typed target.1 model) ∧
        (∀ column ∈ columns, column.computedSql.isSome → version.atLeast ⟨12, 0⟩) ∧
        ∀ bag ∈ columns.map Column.annotations, ∀ view, AnnotationView.ofBag bag = .ok view →
          view.strategy.isIdentity → version.atLeast ⟨10, 0⟩ := by
  simp only [List.forall_mem_map]
  constructor
  · intro h
    have hneeds := fun column hcolumn =>
      (succeeds_columnDefinition hg (hnames column hcolumn)).1 (h column hcolumn)
    refine ⟨fun column hcolumn => ?_, fun column hcolumn => ?_, fun column hcolumn => ?_,
      fun column hcolumn view hview => ?_⟩
    · obtain ⟨view, hview, -⟩ := hneeds column hcolumn
      exact ⟨view, hview⟩
    · obtain ⟨_, -, -, -, htyped⟩ := hneeds column hcolumn
      exact htyped
    · obtain ⟨_, -, hcomputed, -⟩ := hneeds column hcolumn
      exact hcomputed
    · obtain ⟨other, hother, -, hidentity, -⟩ := hneeds column hcolumn
      obtain rfl : other = view := Except.ok.inj (hother.symm.trans hview)
      exact hidentity
  · rintro ⟨hreadable, htyped, hcomputed, hidentity⟩ column hcolumn
    obtain ⟨view, hview⟩ := hreadable column hcolumn
    exact (succeeds_columnDefinition hg (hnames column hcolumn)).2 ⟨view, hview,
      hcomputed column hcolumn, hidentity column hcolumn view hview, htyped column hcolumn⟩

namespace Operation

theorem writable_iff_of_columnless {version : Version} {model : Option Model} {op : Operation}
    (htargets : op.targets = []) (hcolumns : op.newColumns = [])
    (hstrategies : op.strategyBags = []) :
    op.Writable version model ↔
      (∀ bag ∈ op.bags, AnnotationView.Readable bag) ∧ op.AnnotatedNames ∧
        op.SequenceTyped version := by
  constructor
  · rintro ⟨hreadable, -, -, -, hnames, hsequence⟩
    exact ⟨hreadable, hnames, hsequence⟩
  · rintro ⟨hreadable, hnames, hsequence⟩
    exact ⟨hreadable, by simp [htargets], by simp [hcolumns], by simp [hstrategies], hnames,
      hsequence⟩

theorem writable_of_plain {version : Version} {model : Option Model} {op : Operation}
    (htargets : op.targets = []) (hcolumns : op.newColumns = [])
    (hstrategies : op.strategyBags = []) (hbags : op.bags = []) (hnames : op.AnnotatedNames)
    (hsequence : op.SequenceTyped version) :
    op.Writable version model :=
  (writable_iff_of_columnless htargets hcolumns hstrategies).2
    ⟨by simp [hbags], hnames, hsequence⟩

end Operation

namespace Generator

variable {g : Generator} {version : Version} {schema : String} {model : Option Model}

theorem succeeds_createTable_iff (hg : g.dialect = .postgres version schema) {d : TableDefinition}
    (h : (Operation.createTable d).Valid) :
    (g.dispatch (.createTable d) model).Succeeds ↔
      (Operation.createTable d).Writable version model := by
  simp only [Operation.Valid, Operation.requirements, List.forall_mem_append, List.forall_mem_map,
    List.forall_mem_flatMap, Option.mem_toList] at h
  obtain ⟨⟨⟨⟨htable, hcolumns⟩, hprimary⟩, hunique⟩, hforeign⟩ := h
  have hnames : ∀ column ∈ d.columns, Identifier.Valid column.name :=
    fun column hcolumn => Requirement.valid_of_name (hcolumns column hcolumn)
  have huser : ∀ column ∈ TableDefinition.userColumns d.columns, Identifier.Valid column.name :=
    fun column hcolumn => hnames column (List.mem_filter.1 hcolumn).1
  rw [dispatch, succeeds_createTable hg (Requirement.valid_of_object htable) hnames
    (fun key hkey => Requirement.valid_of_key (hprimary key hkey))
    (fun key hkey => Requirement.valid_of_key (hunique key hkey))
    (fun key hkey => Requirement.valid_of_foreignKey (hforeign key hkey)),
    succeeds_columnDefinitions hg huser]
  constructor
  · rintro ⟨view, hview, ⟨hreadable, htyped, hcomputed, hidentity⟩, hinterleave⟩
    refine ⟨?_, htyped, hcomputed, hidentity, ?_, trivial⟩
    · exact List.forall_mem_cons.2 ⟨⟨view, hview⟩, hreadable⟩
    · intro other hother
      obtain rfl : view = other := Except.ok.inj (hview.symm.trans hother)
      exact hinterleave
  · rintro ⟨hreadable, htyped, hcomputed, hidentity, hinterleave, -⟩
    obtain ⟨⟨view, hview⟩, hcolumns⟩ := List.forall_mem_cons.1 hreadable
    exact ⟨view, hview, ⟨hcolumns, htyped, hcomputed, hidentity⟩, hinterleave view hview⟩

theorem succeeds_addColumn_iff (hg : g.dialect = .postgres version schema) {table : ObjectName}
    {column : Column} (h : (Operation.addColumn table column).Valid) :
    (g.dispatch (.addColumn table column) model).Succeeds ↔
      (Operation.addColumn table column).Writable version model := by
  obtain ⟨htable, hname⟩ := Requirement.valid_of_column h
  have huser : ∀ c ∈ TableDefinition.userColumns [column], Identifier.Valid c.name := by
    intro c hc
    rwa [List.mem_singleton.1 (List.mem_filter.1 hc).1]
  have hdefinition : (isSystemColumn column.name = false →
      (columnDefinition g table column model).Succeeds) ↔
      ∀ c ∈ TableDefinition.userColumns [column], (columnDefinition g table c model).Succeeds := by
    simp [TableDefinition.userColumns]
  rw [dispatch, succeeds_addColumn hg htable hname, hdefinition,
    succeeds_columnDefinitions hg huser]
  constructor
  · rintro ⟨hreadable, htyped, hcomputed, hidentity⟩
    exact ⟨hreadable, htyped, hcomputed, hidentity, trivial, trivial⟩
  · rintro ⟨hreadable, htyped, hcomputed, hidentity, -, -⟩
    exact ⟨hreadable, htyped, hcomputed, hidentity⟩

theorem succeeds_alterColumn_iff (hg : g.dialect = .postgres version schema)
    {table : ObjectName} {column old : Column}
    (h : (Operation.alterColumn table column old).Valid) :
    (g.dispatch (.alterColumn table column old) model).Succeeds ↔
      (Operation.alterColumn table column old).Writable version model := by
  obtain ⟨htable, hname⟩ := Requirement.valid_of_column h
  rw [dispatch, succeeds_alterColumn hg htable hname]
  constructor
  · rintro ⟨view, hview, oldView, holdView, hneeds⟩
    refine ⟨?_, ?_, by simp [Operation.newColumns], ?_, trivial, trivial⟩
    · exact List.forall_mem_cons.2
        ⟨⟨view, hview⟩, List.forall_mem_singleton.2 ⟨oldView, holdView⟩⟩
    · intro target htarget
      obtain ⟨c, hc, rfl⟩ := List.mem_map.1 htarget
      obtain ⟨hmem, hsystem⟩ := List.mem_filter.1 hc
      rw [List.mem_singleton.1 hmem] at hsystem ⊢
      exact (hneeds (by simpa using hsystem)).1
    · -- An identity before or after the alteration is enough to need a version that has them.
      intro bag hbag other hother hidentity
      simp only [Operation.strategyBags] at hbag
      split at hbag
      · cases hbag
      · next hsystem =>
        refine (hneeds (eq_false_of_ne_true hsystem)).2 ?_
        rcases List.mem_cons.1 hbag with rfl | hbag
        · obtain rfl : view = other := Except.ok.inj (hview.symm.trans hother)
          rw [hidentity, Bool.true_or]
        · rw [List.mem_singleton.1 hbag] at hother
          obtain rfl : oldView = other := Except.ok.inj (holdView.symm.trans hother)
          rw [hidentity, Bool.or_true]
  · rintro ⟨hreadable, htyped, -, hidentity, -, -⟩
    obtain ⟨view, hview⟩ := hreadable column.annotations (by simp [Operation.bags])
    obtain ⟨oldView, holdView⟩ := hreadable old.annotations (by simp [Operation.bags])
    refine ⟨view, hview, oldView, holdView, fun hsystem => ⟨?_, fun hstrategy => ?_⟩⟩
    · exact htyped (table, column)
        (by simp [Operation.targets, TableDefinition.userColumns, hsystem])
    · have hbags : (Operation.alterColumn table column old).strategyBags =
          [column.annotations, old.annotations] := by simp [Operation.strategyBags, hsystem]
      rw [hbags] at hidentity
      rcases Bool.or_eq_true_iff.1 hstrategy with hnew | hold
      · exact hidentity _ List.mem_cons_self view hview hnew
      · exact hidentity _ (List.mem_cons_of_mem _ List.mem_cons_self) oldView holdView hold

theorem succeeds_alterTable_iff (hg : g.dialect = .postgres version schema) {table : ObjectName}
    {annotations old : AnnotationBag} (h : (Operation.alterTable table annotations old).Valid) :
    (g.dispatch (.alterTable table annotations old) model).Succeeds ↔
      (Operation.alterTable table annotations old).Writable version model := by
  rw [dispatch, succeeds_alterTable hg (Requirement.valid_of_object h),
    Operation.writable_iff_of_columnless rfl rfl rfl, Operation.bags, List.forall_mem_cons,
    List.forall_mem_singleton]
  exact (and_iff_left ⟨trivial, trivial⟩).symm

theorem succeeds_createIndex_iff (hg : g.dialect = .postgres version schema) {d : IndexDefinition}
    (h : (Operation.createIndex d).Valid) :
    (g.dispatch (.createIndex d) model).Succeeds ↔
      (Operation.createIndex d).Writable version model := by
  obtain ⟨hname, hrest⟩ := List.forall_mem_cons.1 h
  obtain ⟨htable, hcolumns⟩ := List.forall_mem_append.1 hrest
  rw [dispatch, succeeds_createIndex hg (Requirement.valid_of_name hname)
    (Requirement.valid_of_object htable) (Requirement.valid_of_columns hcolumns),
    Operation.writable_iff_of_columnless rfl rfl rfl, Operation.bags, List.forall_mem_singleton]
  exact (and_iff_left ⟨trivial, trivial⟩).symm

theorem succeeds_alterDatabase_iff (hg : g.dialect = .postgres version schema)
    {annotations : AnnotationBag} :
    (g.dispatch (.alterDatabase annotations) model).Succeeds ↔
      (Operation.alterDatabase annotations).Writable version model := by
  rw [dispatch, succeeds_alterDatabase hg, Operation.writable_iff_of_columnless rfl rfl rfl,
    Operation.bags, List.forall_mem_singleton]
  constructor
  · rintro ⟨view, hview, hextensions⟩
    refine ⟨⟨view, hview⟩, fun other hother => ?_, trivial⟩
    obtain rfl : view = other := Except.ok.inj (hview.symm.trans hother)
    exact hextensions
  · rintro ⟨⟨view, hview⟩, hextensions, -⟩
    exact ⟨view, hview, hextensions view hview⟩

theorem succeeds_createSequence_iff (hg : g.dialect = .postgres version schema)
    {d : SequenceDefinition} (h : (Operation.createSequence d).Valid) :
    (g.dispatch (.createSequence d) model).Succeeds ↔
      (Operation.createSequence d).Writable version model := by
  rw [dispatch, succeeds_createSequence hg (Requirement.valid_of_object h),
    Operation.writable_iff_of_columnless rfl rfl rfl]
  exact ⟨fun hdepth => ⟨by simp [Operation.bags], trivial, hdepth⟩, fun hneeds => hneeds.2.2⟩

theorem iff_of_plain {op : Operation} (htargets : op.targets = []) (hcolumns : op.newColumns = [])
    (hstrategies : op.strategyBags = []) (hbags : op.bags = []) (hnames : op.AnnotatedNames)
    (hsequence : op.SequenceTyped version) (h : (g.dispatch op model).Succeeds) :
    (g.dispatch op model).Succeeds ↔ op.Writable version model :=
  iff_of_true h (Operation.writable_of_plain htargets hcolumns hstrategies hbags hnames hsequence)

/-- Once its names are valid, an operation needs exactly what makes it writable. -/
theorem succeeds_dispatch_iff (hg : g.dialect = .postgres version schema) {op : Operation}
    (h : op.Valid) : (g.dispatch op model).Succeeds ↔ op.Writable version model := by
  cases op with
  -- The kinds that hold annotations, or types that may not be stored.
  | createTable d => exact succeeds_createTable_iff hg h
  | addColumn table column => exact succeeds_addColumn_iff hg h
  | alterColumn table column old => exact succeeds_alterColumn_iff hg h
  | alterTable table annotations old => exact succeeds_alterTable_iff hg h
  | createIndex d => exact succeeds_createIndex_iff hg h
  | alterDatabase annotations => exact succeeds_alterDatabase_iff hg
  | createSequence d => exact succeeds_createSequence_iff hg h
  -- All others are written as soon as their names are valid.
  | dropTable table =>
    exact iff_of_plain rfl rfl rfl rfl trivial trivial
      (succeeds_dropTable.2 (Requirement.valid_of_object h))
  | dropColumn table column =>
    obtain ⟨hname, htable⟩ := List.forall_mem_cons.1 h
    exact iff_of_plain rfl rfl rfl rfl trivial trivial
      (succeeds_dropColumn (Requirement.valid_of_object htable) (Requirement.valid_of_name hname))
  | renameColumn table column newName =>
    obtain ⟨htable, hnames⟩ := List.forall_mem_append.1 h
    obtain ⟨hname, hnew⟩ := List.forall_mem_cons.1 hnames
    refine iff_of_plain rfl rfl rfl rfl trivial trivial ?_
    rw [dispatch, hg]
    exact succeeds_renameColumn.2 ⟨Requirement.valid_of_object htable,
      Requirement.valid_of_name hname, Requirement.valid_of_name (List.forall_mem_singleton.1 hnew)⟩
  | relocate kind r =>
    obtain ⟨hrest, hschema⟩ := List.forall_mem_append.1 h
    obtain ⟨hobject, hname⟩ := List.forall_mem_append.1 hrest
    exact iff_of_plain rfl rfl rfl rfl trivial trivial
      (succeeds_relocate hg (Requirement.valid_of_object hobject)
        (Requirement.valid_of_optional hname) (Requirement.valid_of_optional hschema))
  | dropIndex index table =>
    exact iff_of_plain rfl rfl rfl rfl trivial trivial
      ((succeeds_dropIndex hg).2 (Requirement.valid_of_object h))
  | ensureSchema name =>
    exact iff_of_plain rfl rfl rfl rfl trivial trivial
      (succeeds_ensureSchema hg (Requirement.valid_of_name (List.forall_mem_singleton.1 h)))
  | dropSchema name =>
    exact iff_of_plain rfl rfl rfl rfl trivial trivial
      (succeeds_dropSchema.2 (Requirement.valid_of_name (List.forall_mem_singleton.1 h)))
  | createDatabase d =>
    obtain ⟨hrest, htablespace⟩ := List.forall_mem_append.1 h
    obtain ⟨hname, htemplate⟩ := List.forall_mem_cons.1 hrest
    exact iff_of_plain rfl rfl rfl rfl trivial trivial
      ((succeeds_createDatabase hg).2 ⟨Requirement.valid_of_name hname,
        Requirement.valid_of_optional htemplate, Requirement.valid_of_optional htablespace⟩)
  | dropDatabase name =>
    exact iff_of_plain rfl rfl rfl rfl trivial trivial
      ((succeeds_dropDatabase hg).2 (Requirement.valid_of_name (List.forall_mem_singleton.1 h)))
  | alterSequence sequence options =>
    exact iff_of_plain rfl rfl rfl rfl trivial trivial
      (succeeds_alterSequence.2 (Requirement.valid_of_object h))
  | restartSequence sequence start =>
    exact iff_of_plain rfl rfl rfl rfl trivial trivial
      (succeeds_restartSequence.2 (Requirement.valid_of_object h))
  | dropSequence sequence =>
    exact iff_of_plain rfl rfl rfl rfl trivial trivial
      (succeeds_dropSequence.2 (Requirement.valid_of_object h))
  | addPrimaryKey table key =>
    obtain ⟨htable, hkey⟩ := List.forall_mem_append.1 h
    exact iff_of_plain rfl rfl rfl rfl trivial trivial
      (succeeds_addConstraint.2 ⟨Requirement.valid_of_object htable,
        succeeds_keyClause.2 (Requirement.valid_of_key hkey)⟩)
  | addForeignKey table key =>
    obtain ⟨htable, hkey⟩ := List.forall_mem_append.1 h
    exact iff_of_plain rfl rfl rfl rfl trivial trivial
      (succeeds_addConstraint.2 ⟨Requirement.valid_of_object htable,
        succeeds_foreignKeyClause (Requirement.valid_of_foreignKey hkey)⟩)
  | addUnique table key =>
    obtain ⟨htable, hkey⟩ := List.forall_mem_append.1 h
    exact iff_of_plain rfl rfl rfl rfl trivial trivial
      (succeeds_addConstraint.2 ⟨Requirement.valid_of_object htable,
        succeeds_keyClause.2 (Requirement.valid_of_key hkey)⟩)
  | dropConstraint kind table constraint =>
    obtain ⟨hname, htable⟩ := List.forall_mem_cons.1 h
    exact iff_of_plain rfl rfl rfl rfl trivial trivial
      (succeeds_dropConstraint.2 ⟨Requirement.valid_of_object htable,
        Requirement.valid_of_name hname⟩)
  | sql text suppressed =>
    exact iff_of_plain rfl rfl rfl rfl trivial trivial (succeeds_rawSql text suppressed)

end Generator

namespace Script

theorem compile_eq_ok_iff (script : Script) (hmemo : script.memo.Sound) (g : Generator)
    (model : Option Model) (op : Operation) :
    (script.compile g model op).1 = .ok () ↔
      op.validate = .ok () ∧ (g.dispatch op model).Succeeds := by
  obtain ⟨-, hresult, -⟩ := (g.dispatch op model).run_eq hmemo
  rw [compile, succeeds_iff]
  cases hvalid : op.validate with
  | error e => simp
  | ok =>
    simp only [write, hresult, true_and]
    cases (g.dispatch op model).result with
    | error e => simp
    | ok => simp

theorem builder_compile {script after : Script} (hmemo : script.memo.Sound) {g : Generator}
    {model : Option Model} {op : Operation} (h : script.compile g model op = (.ok (), after)) :
    after.builder = script.builder.run (g.dispatch op model).edits := by
  obtain ⟨hedits, -, -⟩ := (g.dispatch op model).run_eq hmemo
  rw [compile] at h
  split at h
  · cases h
  · simp only [write, hedits] at h
    split at h
    · next hwrite =>
      cases h
      obtain ⟨-, rfl⟩ := Prod.mk.inj hwrite
      rfl
    · cases h

/-- An operation compiles for a server, whatever stands in the builder and whatever types were
looked up before, if it is valid and has all that it needs to be written. -/
theorem compile_ok_iff_writable (builder : Builder) (asked : List TypeQuery) (terminator : String)
    (version : Version) (schema : String) (model : Option Model) (op : Operation) :
    (compile ⟨builder, .after asked⟩ ⟨terminator, .postgres version schema⟩ model op).1 = .ok () ↔
      op.validate = .ok () ∧ op.Writable version model := by
  rw [compile_eq_ok_iff _ (Memo.sound_after asked)]
  exact and_congr_right fun hvalid =>
    Generator.succeeds_dispatch_iff rfl (Operation.validate_eq_ok_iff.1 hvalid)

/-- Before version 10 even a sequence of arrays of arrays compiles, which no type is stored for. -/
theorem compile_sequence_of_nested_arrays :
    let d : SequenceDefinition := {
      sequence := { name := "s" }
      logical := .array (.array (.scalar .int32)) }
    (compile ⟨{}, .after []⟩ ⟨";", .postgres ⟨9, 6⟩ "public"⟩ none (.createSequence d)).1 = .ok () ∧
      ¬d.logical.depth ≤ 1 := by
  intro d
  have hvalid : (Operation.createSequence d).Valid := by decide
  refine ⟨(compile_eq_ok_iff _ (Memo.sound_after []) _ _ _).2
    ⟨Operation.validate_eq_ok_iff.2 hvalid, ?_⟩, by decide⟩
  exact (succeeds_createSequence rfl (Requirement.valid_of_object hvalid)).2 fun h =>
    absurd h (by decide)

end Script

end SchemaDdl
