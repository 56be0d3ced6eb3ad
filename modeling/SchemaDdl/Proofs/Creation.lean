import SchemaDdl.Proofs.Annotation.Reading
import SchemaDdl.Proofs.Composition
import SchemaDdl.Proofs.Quoting.Statements
import SchemaDdl.Proofs.SuccessCondition

/-!
# Creating a table

The statement that creates a table is put together from its elements, each of
which has the text that it has on its own: a column as it is written to an
empty builder, a key as it is added to a table. Comments follow as statements
of their own in the same command.
-/

namespace SchemaDdl

open Render Statement

/-! ## The elements of a table -/

namespace Render

variable {part : Render Unit}

theorem run_element (h : part.Clause) (hok : part.result = .ok ()) {b : Builder}
    (hstart : b.atLineStart = true) (separator : String) :
    (b.run part.edits).appendLine separator = { b with
      pending := b.pending ++ (Builder.indentation b.depth ++ part.text ++ separator ++ "\n")
      atLineStart := true } := by
  have hne : part.text ++ separator ≠ "" := by
    intro hempty
    have hblank := h.isBlank_text hok
    rw [(String.append_eq_empty_iff.1 hempty).1] at hblank
    cases hblank
  rw [h.plain.run_edits, Builder.appendLine, Builder.append_append, Builder.append, if_neg hne,
    Builder.breakLine]
  simp [hstart, String.append_assoc]

/-- By induction on the elements; before each of them a line starts. -/
theorem run_commaLines {parts : List (Render Unit)}
    (h : ∀ part ∈ parts, part.Clause ∧ part.result = .ok ()) {b : Builder}
    (hstart : b.atLineStart = true) :
    (b.run (commaLines parts).edits).breakLine = { b with
      pending := b.pending ++ (String.intercalate ",\n"
        (parts.map fun part => Builder.indentation b.depth ++ part.text) ++ "\n")
      atLineStart := true } := by
  induction parts generalizing b with
  | nil => simp [commaLines, edits_pure, Builder.breakLine]
  | cons part parts ih =>
    obtain ⟨⟨hclause, hok⟩, hrest⟩ := List.forall_mem_cons.1 h
    cases parts with
    | nil =>
      have hline := run_element hclause hok hstart ""
      simpa [commaLines, Builder.appendLine, Builder.append] using hline
    | cons next rest =>
      have hedits : (commaLines (part :: next :: rest)).edits =
          part.edits ++ .append "," :: .breakLine :: (commaLines (next :: rest)).edits := by
        rw [commaLines, edits_bind hok]
        · rfl
        · simp
      have hline := run_element hclause hok hstart ","
      rw [hedits, Builder.run_append, Builder.run_cons, Builder.run_cons]
      change (Builder.run ((b.run part.edits).appendLine ",") _).breakLine = _
      rw [hline, ih hrest rfl]
      simp [String.append_assoc]

end Render

/-! ## The statements -/

namespace Statement

def elementLines (elements : List String) : String :=
  " (\n" ++ String.intercalate ",\n" (elements.map ("    " ++ ·)) ++ "\n)"

def interleaving (interleave : Interleave) : String :=
  "\n" ++ "INTERLEAVE IN PARENT " ++ ObjectName.quoted ⟨interleave.schema, interleave.table⟩ ++
    (" (" ++ String.intercalate ", " (interleave.columns.map Identifier.quote) ++ ")")

def storing (parameters : List (String × String)) : String :=
  if parameters = [] then ""
  else "\n" ++ ("WITH (" ++ StorageParameters.pairsText parameters ++ ")")

end Statement

namespace TableDefinition

def creation (d : TableDefinition) (view : AnnotationView) (elements : List String) : String :=
  "CREATE " ++ (if view.unlogged then "UNLOGGED " else "") ++ "TABLE " ++ d.table.quoted ++
    elementLines elements ++ view.interleave.elim "" interleaving ++
    storing d.annotations.storageParameters

def columnComment (table : ObjectName) (column comment : String) : String :=
  "COMMENT ON COLUMN " ++ table.quoted ++ "." ++ Identifier.quote column ++ " IS " ++
    Value.quote comment

def comments (d : TableDefinition) (view : AnnotationView)
    (columns : List (String × Option String)) : List String :=
  (view.comment.map fun comment =>
    "COMMENT ON TABLE " ++ d.table.quoted ++ " IS " ++ Value.quote comment).toList ++
  columns.filterMap fun c => c.2.map (columnComment d.table c.1)

/-- The clauses of the keys, in the order in which they follow the columns. -/
def keyClauses (d : TableDefinition) : List (Render Unit) :=
  d.primaryKey.toList.map primaryKeyClause ++ d.uniqueKeys.map uniqueClause ++
    d.foreignKeys.map foreignKeyClause

/-- The operations that would add the same keys to the table. -/
def keyOperations (d : TableDefinition) : List Operation :=
  d.primaryKey.toList.map (.addPrimaryKey d.table) ++ d.uniqueKeys.map (.addUnique d.table) ++
    d.foreignKeys.map (.addForeignKey d.table)

end TableDefinition

namespace Statement

theorem succeeds_tableElements {g : Generator} {d : TableDefinition} {model : Option Model}
    (h : (tableBody g d model).Succeeds) : (commaLines (tableElements g d model)).Succeeds := by
  simp only [tableBody, succeeds_then] at h
  exact h.2.2.1

theorem writes_tableBody {g : Generator} {d : TableDefinition} {model : Option Model}
    (h : (tableBody g d model).result = .ok ()) :
    (tableBody g d model).Writes ()
      (elementLines ((tableElements g d model).map Render.text)) := by
  have helements := succeeds_tableElements ⟨(), h⟩
  have hparts : ∀ part ∈ tableElements g d model, part.Clause ∧ part.result = .ok () :=
    fun part hpart => ⟨clause_tableElements g d model part hpart,
      succeeds_iff.1 (succeeds_commaLines.1 helements part hpart)⟩
  have hedits : (tableBody g d model).edits = .append " (" :: .breakLine :: .indent ::
      ((commaLines (tableElements g d model)).edits ++ [.breakLine, .dedent, .append ")"]) :=
    congrArg (fun es => Edit.append " (" :: .breakLine :: .indent :: es)
      (edits_bind (f := fun _ => do breakLine; dedent; append ")") (succeeds_iff.1 helements))
  refine ⟨h, fun pending atLineStart => ⟨false, ?_⟩⟩
  obtain ⟨middle, hopen⟩ := (writes_append " (").2 pending atLineStart
  have hopen : ({ pending, atLineStart } : Builder).append " (" =
      { pending := pending ++ " (", atLineStart := middle } := hopen
  rw [hedits, Builder.run_cons, Builder.apply, hopen, Builder.run_cons, Builder.run_cons,
    Builder.run_append, Builder.run_cons]
  change ((Builder.run _ _).breakLine).run _ = _
  rw [run_commaLines hparts rfl]
  simp [Builder.apply, Builder.breakLine, Builder.indent, Builder.dedent, Builder.append,
    Builder.indentation, elementLines, Function.comp_def, String.append_assoc]

theorem writes_interleaveClause {interleave : Option Interleave}
    (h : ∀ i ∈ interleave, i.Valid) :
    (interleaveClause interleave).Writes () (interleave.elim "" interleaving) := by
  refine writes_optionally fun i hi => ?_
  obtain ⟨hparent, hcolumns⟩ := h i hi
  have hlist := writes_ofResult (Identifier.delimitList_eq_ok_iff.2 ⟨hcolumns, rfl⟩)
  refine (hlist.then (writes_breakLine.then ((writes_append _).then
    ((writes_appendName hparent).then (writes_append _))))).congr ?_
  simp only [interleaving, String.append_assoc, String.empty_append]

theorem writes_storageClause {parameters : StorageParameters}
    {entries : List (String × String)} (h : parameters.entries = entries) :
    (storageClause parameters).Writes () (storing entries) := by
  subst h
  refine (writes_onlyIf fun _ => writes_breakLine.then (writes_append _)).congr ?_
  rw [storing, StorageParameters.text, OrderedMap.isEmpty]
  cases parameters.entries with
  | nil => rfl
  | cons entry entries => rfl

theorem writes_tableComment (g : Generator) (table : String) (comment : Option String) :
    (optionally comment fun comment => do
      g.endLine
      append (commentOnTable table (some comment))).Writes ()
        (comment.elim "" fun comment =>
          g.terminator ++ "\n" ++ ("COMMENT ON TABLE " ++ table ++ " IS " ++ Value.quote comment)) :=
  writes_optionally fun _ _ => (writes_endLine g).then (writes_append _)

theorem writes_columnComment (table : ObjectName) {column : String}
    (h : Identifier.Valid column) (comment : String) :
    (commentOnColumn table.quoted column (some comment)).Writes ()
      (TableDefinition.columnComment table column comment) := by
  refine Writes.congr ((writes_append _).then
    ((writes_appendName (ObjectName.valid_of_name.2 h)).then (writes_append _))) ?_
  delta TableDefinition.columnComment
  simp only [String.append_assoc]
  rfl

theorem writes_columnComments (g : Generator) (table : ObjectName)
    {columns : List (String × Option String)} (h : ∀ c ∈ columns, Identifier.Valid c.1) :
    (columnComments g table.quoted columns).Writes () (String.join
      ((columns.filterMap fun c => c.2.map (TableDefinition.columnComment table c.1)).map
        fun statement => g.terminator ++ "\n" ++ statement)) := by
  induction columns with
  | nil => exact writes_pure ()
  | cons first rest ih =>
    obtain ⟨hfirst, hrest⟩ := List.forall_mem_cons.1 h
    obtain ⟨column, comment⟩ := first
    cases comment with
    | none =>
      rw [columnComments, List.filterMap_cons_none rfl]
      exact ih hrest
    | some comment =>
      rw [columnComments]
      refine ((writes_endLine g).then
        ((writes_columnComment table hfirst comment).then (ih hrest))).congr ?_
      simp only [List.filterMap_cons, Option.map_some, List.map_cons, String.join_cons,
        String.append_assoc]

theorem map_text_tableElements (g : Generator) (d : TableDefinition) (model : Option Model) :
    (tableElements g d model).map Render.text =
      (d.columns.map fun column => (columnDefinition g d.table column model).text) ++
        d.keyClauses.map Render.text := by
  simp [tableElements, TableDefinition.keyClauses, Function.comp_def]

theorem sends_createTable {g : Generator} {version : Version} {schema : String}
    (hg : g.dialect = .postgres version schema) {d : TableDefinition} {model : Option Model}
    {view : AnnotationView} {columns : List (String × Option String)} (htable : d.table.Valid)
    (hview : AnnotationView.ofBag d.annotations = .ok view)
    (hcolumns : (TableDefinition.userColumns d.columns).mapM commentOf = .ok columns)
    (hnames : ∀ c ∈ columns, Identifier.Valid c.1)
    (hbody : (tableBody g { d with columns := TableDefinition.userColumns d.columns }
      model).result = .ok ())
    (hinterleave : ∀ i ∈ view.interleave, i.Valid) :
    (createTable g d model true).Sends "" [⟨g.lines (d.creation view
      ((TableDefinition.userColumns d.columns).map (fun column =>
        (columnDefinition g d.table column model).text) ++ d.keyClauses.map Render.text) ::
      d.comments view columns), false⟩] := by
  have hbody : (tableBody g { d with columns := TableDefinition.userColumns d.columns }
      model).Writes () (elementLines ((TableDefinition.userColumns d.columns).map (fun column =>
        (columnDefinition g d.table column model).text) ++ d.keyClauses.map Render.text)) :=
    (writes_tableBody hbody).congr (congrArg elementLines (map_text_tableElements ..))
  rw [createTable, hg]
  refine (writes_ofResult hview).sends ((writes_ofResult hcolumns).sends
    ((writes_ofResult (ObjectName.delimit_eq_ok_iff.2 ⟨htable, rfl⟩)).sends
    ((writes_append _).sends (hbody.sends ((writes_interleaveClause hinterleave).sends
    ((writes_storageClause (AnnotationView.storage_ofBag hview)).sends
    ((writes_tableComment g d.table.quoted view.comment).sends
    ((writes_columnComments g d.table hnames).sends
    ((sends_terminate g false ?_).congr ?_)))))))))
  · simp only [String.append_assoc, String.empty_append]
    exact Text.isBlank_append_left (by decide) _
  · rw [Generator.lines_cons_eq, TableDefinition.comments]
    delta TableDefinition.creation
    cases view.comment <;>
      simp only [Option.elim_none, Option.elim_some, Option.map_none, Option.map_some,
        Option.toList_none, Option.toList_some, List.nil_append, List.singleton_append,
        List.map_cons, String.join_cons, String.append_assoc, String.empty_append,
        String.append_empty]

theorem valid_columnName {d : TableDefinition} (h : (Operation.createTable d).Valid) :
    ∀ column ∈ d.columns, Identifier.Valid column.name := by
  intro column hcolumn
  refine Requirement.valid_of_name (h (.name "column name" column.name) ?_)
  simp only [Operation.requirements, List.mem_append, List.mem_map]
  exact .inl (.inl (.inl (.inr ⟨column, hcolumn, rfl⟩)))

theorem exists_sends_createTable {g : Generator} {version : Version} {schema : String}
    (hg : g.dialect = .postgres version schema) {d : TableDefinition} {model : Option Model}
    (hvalid : (Operation.createTable d).Valid) (h : (createTable g d model true).Succeeds) :
    ∃ view columns, AnnotationView.ofBag d.annotations = .ok view ∧
      (TableDefinition.userColumns d.columns).mapM commentOf = .ok columns ∧
      (∀ column ∈ TableDefinition.userColumns d.columns,
        (columnDefinition g d.table column model).Succeeds) ∧
      (createTable g d model true).Sends "" [⟨g.lines (d.creation view
        ((TableDefinition.userColumns d.columns).map (fun column =>
          (columnDefinition g d.table column model).text) ++ d.keyClauses.map Render.text) ::
        d.comments view columns), false⟩] := by
  have hnames : ∀ column ∈ TableDefinition.userColumns d.columns,
      Identifier.Valid column.name := fun column hcolumn =>
    valid_columnName hvalid column (List.mem_filter.1 hcolumn).1
  have hparts := h
  rw [createTable, hg] at hparts
  simp only [createPostgresTable, succeeds_ofResult_bind, ObjectName.delimit_eq_ok_iff,
    succeeds_then, succeeds_interleaveClause] at hparts
  obtain ⟨view, hview, columns, hcolumns, _, ⟨htable, rfl⟩, -, hbody, hinterleave, -⟩ := hparts
  have hdefined : ∀ column ∈ TableDefinition.userColumns d.columns,
      (columnDefinition g d.table column model).Succeeds := by
    intro column hcolumn
    refine succeeds_commaLines.1 (succeeds_tableElements hbody) _ ?_
    simp only [tableElements, List.mem_append, List.mem_map]
    exact .inl (.inl (.inl ⟨column, hcolumn, rfl⟩))
  exact ⟨view, columns, hview, hcolumns, hdefined, sends_createTable hg htable hview hcolumns
    (valid_of_mapM_commentOf hcolumns hnames) (succeeds_iff.1 hbody) hinterleave⟩

end Statement

/-! ## The keys on their own -/

namespace Requirement

/-- Which field a key stands in does not matter to whether its names can be used. -/
theorem holds_addedKey {field : String} {key : KeyConstraint}
    (h : ∀ r ∈ tableKey field key, r.Holds) : ∀ r ∈ addedKey key, r.Holds := by
  simp only [tableKey, addedKey, columns, List.forall_mem_append, List.forall_mem_cons,
    List.forall_mem_map, holds_optional_iff, holds_name_iff, holds_someColumn_iff] at h ⊢
  exact h

theorem holds_table {o : ObjectName} (h : ∀ r ∈ object o, r.Holds) : ∀ r ∈ table o, r.Holds := by
  simp only [object, table, List.forall_mem_cons, holds_name_iff] at h ⊢
  exact h

end Requirement

namespace Generator

variable {g : Generator} {model : Option Model} {table : ObjectName}

def added (g : Generator) (table : ObjectName) (clause : String) : String :=
  "ALTER TABLE " ++ table.quoted ++ " ADD " ++ clause ++ g.terminator ++ "\n"

theorem generate_add {op : Operation} {clause : Render Unit}
    (hop : g.dispatch op model = addConstraint g table clause) (hvalid : op.Valid)
    (htable : table.Valid) (hclause : clause.Clause) (hok : clause.Succeeds) :
    g.generate model [op] = .ok [⟨g.added table clause.text, false⟩] := by
  have hwrites := hclause.plain.inline.writes (succeeds_iff.1 hok)
  have hsends : (addConstraint g table clause).Sends "" [⟨g.added table clause.text, false⟩] := by
    refine Sends.begin ((writes_appendName htable).sends ((writes_append _).sends
      (hwrites.sends (sends_terminate g false ?_))))
    simp only [String.append_assoc]
    exact Text.isBlank_append_left (by decide) _
  rw [← hop] at hsends
  exact generate_eq_of_sends (Operation.validate_eq_ok_iff.2 hvalid) hsends

/-- Each key is added to a table by the clause that it has in the definition of the table. -/
theorem generate_keyOperations (g : Generator) (model : Option Model) {d : TableDefinition}
    (h : (Operation.createTable d).Valid) :
    d.keyOperations.map (fun op => g.generate model [op]) =
      (d.keyClauses.map Render.text).map fun key => .ok [⟨g.added d.table key, false⟩] := by
  simp only [Operation.Valid, Operation.requirements, List.forall_mem_append, List.forall_mem_map,
    List.forall_mem_flatMap, Option.mem_toList] at h
  obtain ⟨⟨⟨⟨hobject, -⟩, hprimary⟩, hunique⟩, hforeign⟩ := h
  have htable := Requirement.valid_of_object hobject
  have hrequired {key : List Requirement} (hkey : ∀ r ∈ key, r.Holds) :
      ∀ r ∈ Requirement.table d.table ++ key, r.Holds :=
    List.forall_mem_append.2 ⟨Requirement.holds_table hobject, hkey⟩
  simp only [TableDefinition.keyOperations, TableDefinition.keyClauses, List.map_append,
    List.map_map]
  congr 1
  · congr 1
    · refine List.map_congr_left fun key hkey => ?_
      have hholds := hprimary key (Option.mem_toList.1 hkey)
      exact generate_add rfl (hrequired (Requirement.holds_addedKey hholds)) htable
        (clause_primaryKeyClause key) (succeeds_keyClause.2 (Requirement.valid_of_key hholds))
    · refine List.map_congr_left fun key hkey => ?_
      have hholds := hunique key hkey
      exact generate_add rfl (hrequired (Requirement.holds_addedKey hholds)) htable
        (clause_uniqueClause key) (succeeds_keyClause.2 (Requirement.valid_of_key hholds))
  · refine List.map_congr_left fun key hkey => ?_
    have hholds := hforeign key hkey
    exact generate_add rfl (hrequired hholds) htable (clause_foreignKeyClause key)
      (succeeds_foreignKeyClause (Requirement.valid_of_foreignKey hholds))

end Generator

namespace Script

/-- A table that compiles adds one command. Its elements are the columns that are the user's own,
each as it is written to an empty builder, and then the keys, each as the operation writes it that
adds it to the table. -/
theorem compile_createTable (builder : Builder) (asked : List TypeQuery) (terminator : String)
    (version : Version) (schema : String) (model : Option Model) (d : TableDefinition)
    {after : Script} (hpending : builder.pending = "") (hdepth : builder.depth = 0)
    (h : compile ⟨builder, .after asked⟩ ⟨terminator, .postgres version schema⟩ model
      (.createTable d) = (.ok (), after)) :
    let g : Generator := ⟨terminator, .postgres version schema⟩
    ∃ view columns keys,
      AnnotationView.ofBag d.annotations = .ok view ∧
        (TableDefinition.userColumns d.columns).mapM commentOf = .ok columns ∧
        (∀ column ∈ TableDefinition.userColumns d.columns,
          (columnDefinition g d.table column model).Succeeds) ∧
        d.keyOperations.map (fun op => g.generate model [op]) =
          keys.map (fun key => .ok [⟨g.added d.table key, false⟩]) ∧
        after.builder = {
          commands := builder.commands ++ [⟨g.lines (d.creation view
            ((TableDefinition.userColumns d.columns).map (fun column =>
              (columnDefinition g d.table column model).text) ++ keys) ::
            d.comments view columns), false⟩] } := by
  intro g
  have hmemo := Memo.sound_after asked
  obtain ⟨hvalidate, hsucceeds⟩ := (compile_eq_ok_iff _ hmemo _ _ _).1 (congrArg Prod.fst h)
  have hvalid := Operation.validate_eq_ok_iff.1 hvalidate
  obtain ⟨view, columns, hview, hcolumns, hdefined, hsends⟩ :=
    exists_sends_createTable (g := g) rfl hvalid hsucceeds
  refine ⟨view, columns, _, hview, hcolumns, hdefined, g.generate_keyOperations model hvalid, ?_⟩
  rw [builder_compile hmemo h]
  exact hsends.run_edits (moves_createTable _ _ _) (List.cons_ne_nil _ _) hpending hdepth

/-- Of three columns one belongs to the server, one is commented and one is computed. -/
theorem compile_createTable_keys :
    let g : Generator := ⟨";", .postgres ⟨14, 0⟩ "public"⟩
    let d : TableDefinition := {
      table := { schema := some "app", name := "t" }
      columns := [
        { name := "id", logical := some (.scalar .int32)
          annotations := .ofList [("Postgres:Comment", .text "the key")] },
        { name := "xmin", logical := some (.scalar .int32) },
        { name := "twice", storeType := some "integer", computedSql := some "id * 2" }]
      primaryKey := some { columns := ["id"] }
      uniqueKeys := [{ name := some "u", columns := ["id", "twice"] }]
      foreignKeys := [{ columns := ["id"], principal := { name := "p" }, onDelete := .cascade }]
      annotations := .ofList [
        ("Postgres:StorageParameter:fillfactor", .text "70"),
        ("Postgres:UnloggedTable", .bool true),
        ("Postgres:InterleaveInParent", .text ",p,id"),
        ("Postgres:Comment", .text "a table")] }
    ∃ after, compile ⟨{}, .after []⟩ g none (.createTable d) = (.ok (), after) ∧
      ∃ view columns keys,
        AnnotationView.ofBag d.annotations = .ok view ∧
          (TableDefinition.userColumns d.columns).mapM commentOf = .ok columns ∧
          (∀ column ∈ TableDefinition.userColumns d.columns,
            (columnDefinition g d.table column none).Succeeds) ∧
          d.keyOperations.map (fun op => g.generate none [op]) =
            keys.map (fun key => .ok [⟨g.added d.table key, false⟩]) ∧
          after.builder = {
            commands := [] ++ [⟨g.lines (d.creation view
              ((TableDefinition.userColumns d.columns).map (fun column =>
                (columnDefinition g d.table column none).text) ++ keys) ::
              d.comments view columns), false⟩] } := by
  intro g d
  have hok : (compile ⟨{}, .after []⟩ g none (.createTable d)).1.isOk = true := by decide +kernel
  cases h : compile ⟨{}, .after []⟩ g none (.createTable d) with
  | mk result after =>
    rw [h] at hok
    cases result with
    | ok => exact ⟨after, rfl, compile_createTable {} [] ";" ⟨14, 0⟩ "public" none d rfl rfl h⟩
    | error e => cases hok

example :
    let d : TableDefinition := {
      table := { name := "t" }
      annotations := .ofList [("Postgres:StorageParameter:fillfactor", .integer 70)] }
    d.creation { unlogged := true } ["\"a\" integer", "PRIMARY KEY (\"a\")"] =
      "CREATE UNLOGGED TABLE \"t\" (\n    \"a\" integer,\n    PRIMARY KEY (\"a\")\n)" ++
        "\nWITH (fillfactor=70)" := by
  decide +kernel

end Script

end SchemaDdl
