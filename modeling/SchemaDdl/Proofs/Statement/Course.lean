import SchemaDdl.Migration
import SchemaDdl.Proofs.Script.Sentence

/-!
# The course of each statement

The parts of statements only add text. Every statement begins a command with
words of its own and ends it, so each operation leads from between two
commands to between two commands. Most of them are one sentence.
-/

namespace SchemaDdl

open Render

namespace Statement

/-! ## Parts of statements -/

theorem silent_literal (value : Value) (storeType : Option String) :
    (Render.literal value storeType).Silent := by
  cases storeType with
  | none => trivial
  | some name =>
    refine (silent_find _).bind fun found => ?_
    cases found <;> trivial

theorem silent_columnType (table : ObjectName) (column : Column) (model : Option Model) :
    (columnType table column model).Silent := by
  unfold columnType
  split
  · trivial
  · split
    · trivial
    · split
      · trivial
      · exact (silent_require _).bind fun _ => trivial

theorem silent_defaultClause (value : Option Value) (sql : Option String) (storeType : String) :
    (defaultClause value sql storeType).Silent := by
  unfold defaultClause
  split
  · trivial
  · exact (silent_literal _ _).bind fun _ => trivial
  · trivial

theorem silent_defaultChange (column : Column) (owned : Option String) (storeType : String) :
    (defaultChange column owned storeType).Silent := by
  unfold defaultChange
  simp only
  split
  · exact (silent_defaultClause _ _ _).bind fun _ => trivial
  · trivial

theorem silent_namedSequenceType (logical : LogicalType) : (namedSequenceType logical).Silent := by
  unfold namedSequenceType
  split
  · trivial
  · exact (silent_require _).bind fun _ => trivial

theorem silent_sequenceType (g : Generator) (logical : LogicalType) :
    (sequenceType g logical).Silent := by
  unfold sequenceType
  split
  · exact silent_namedSequenceType logical
  · split
    · exact silent_namedSequenceType logical
    · trivial

theorem plain_appendColumns (columns : List String) : (appendColumns columns).Plain :=
  (silent_ofResult _).plain.bind plain_append

theorem clause_columnDefinitionOf (column : Column) (storeType : String) :
    (columnDefinitionOf column storeType).Clause :=
  (clause_appendName _).bind fun _ =>
  (plain_append _).bind fun _ =>
  (plain_append _).bind fun _ =>
  (plain_optionally fun _ => plain_append _).bind fun _ =>
  (plain_append _).onlyIf.bind fun _ =>
  ((silent_defaultClause _ _ _).plain.bind plain_append).onlyIf

theorem clause_columnDefinition (g : Generator) (table : ObjectName) (column : Column)
    (model : Option Model) : (columnDefinition g table column model).Clause := by
  unfold columnDefinition
  split
  · exact (silent_columnType _ _ _).clause (clause_columnDefinitionOf column)
  · refine (silent_ofResult _).clause fun view => ?_
    refine (silent_ofResult _).onlyIf.clause fun _ => ?_
    refine (silent_ofResult _).onlyIf.clause fun _ => ?_
    refine (silent_columnType _ _ _).clause fun storeType => ?_
    split
    · exact (clause_columnDefinitionOf _ _).bind fun _ => plain_append _
    · exact clause_columnDefinitionOf _ _

theorem plain_commentOnColumn (table column : String) (comment : Option String) :
    (commentOnColumn table column comment).Plain :=
  (plain_append _).bind fun _ => (plain_appendName _).bind fun _ => plain_append _

/-- A constraint begins with its name or else with a word of its own. -/
theorem clause_constraint (name : Option String) {word : String} {rest : Unit → Render Unit}
    (h : Text.isBlank word = false) (hrest : (rest ()).Plain) :
    (constraintName name >>= fun _ => append word >>= rest).Clause := by
  have hword : (append word >>= rest).Clause := (clause_append h).bind fun _ => hrest
  cases name with
  | none => exact hword
  | some name =>
    have hname : (constraintName (some name)).Clause :=
      (clause_append (by decide)).bind fun _ => (plain_appendName _).bind fun _ => plain_append _
    exact hname.bind fun _ => hword.plain

theorem clause_keyClause {word : String} (h : Text.isBlank word = false) (key : KeyConstraint) :
    (keyClause word key).Clause :=
  clause_constraint key.name h <|
    (plain_append _).bind fun _ => (plain_appendColumns _).bind fun _ => plain_append _

theorem clause_primaryKeyClause (key : KeyConstraint) : (primaryKeyClause key).Clause :=
  clause_keyClause (by decide) key

theorem clause_uniqueClause (key : KeyConstraint) : (uniqueClause key).Clause :=
  clause_keyClause (by decide) key

theorem plain_actionClause (event : String) (action : ReferentialAction) :
    (actionClause event action).Plain :=
  (plain_append _).onlyIf

theorem clause_foreignKeyClause (key : ForeignKey) : (foreignKeyClause key).Clause :=
  clause_constraint key.name (by decide) <|
    (plain_appendColumns _).bind fun _ =>
    (plain_append _).bind fun _ =>
    (plain_appendName _).bind fun _ =>
    ((plain_append _).bind fun _ =>
      (plain_appendColumns _).bind fun _ => plain_append _).onlyIf.bind fun _ =>
    (plain_actionClause _ _).bind fun _ => plain_actionClause _ _

theorem clause_tableElements (g : Generator) (d : TableDefinition) (model : Option Model) :
    ∀ part ∈ tableElements g d model, part.Clause := by
  intro part hpart
  simp only [tableElements, List.mem_append, List.mem_map] at hpart
  rcases hpart with ((⟨column, -, rfl⟩ | ⟨key, -, rfl⟩) | ⟨key, -, rfl⟩) | ⟨key, -, rfl⟩
  · exact clause_columnDefinition g d.table column model
  · exact clause_primaryKeyClause key
  · exact clause_uniqueClause key
  · exact clause_foreignKeyClause key

theorem inline_interleaveClause (interleave : Option Interleave) :
    (interleaveClause interleave).Inline :=
  inline_optionally fun _ =>
    (silent_ofResult _).inline.bind fun _ =>
    inline_breakLine.bind fun _ =>
    (inline_append _).bind fun _ =>
    (inline_appendName _).bind fun _ => inline_append _

theorem inline_storageClause (parameters : StorageParameters) :
    (storageClause parameters).Inline :=
  (inline_breakLine.bind fun _ => inline_append _).onlyIf

theorem inline_columnComments (g : Generator) (table : String)
    (comments : List (String × Option String)) : (columnComments g table comments).Inline := by
  induction comments with
  | nil => trivial
  | cons entry rest ih =>
    obtain ⟨column, comment⟩ := entry
    cases comment with
    | none => exact ih
    | some comment =>
      exact g.inline_endLine.bind fun _ => (plain_commentOnColumn _ _ _).inline.bind fun _ => ih

theorem inline_namedClause (keyword : String) (name : Option String) :
    (namedClause keyword name).Inline :=
  inline_optionally fun _ => (inline_append _).bind fun _ => inline_appendName _

/-! ## Whole statements -/

theorem moves_words {text : String} {rest : Unit → Render Unit} {q : Phase}
    (h : Text.isBlank text = false) (hrest : Moves (.inside 0) (rest ()) q) :
    Moves .between (append text >>= rest) q :=
  (moves_begin h).bind fun _ => hrest

theorem moves_tableBody (g : Generator) (d : TableDefinition) (model : Option Model) :
    Moves (.inside 0) (tableBody g d model) (.inside 0) := by
  have helements : (commaLines (tableElements g d model)).Inline :=
    inline_commaLines fun part hpart => (clause_tableElements g d model part hpart).plain.inline
  refine ((inline_appendLine _).moves 0).bind fun _ => ?_
  refine (moves_indent 0).bind fun _ => ?_
  refine (helements.moves 1).bind fun _ => ?_
  refine (inline_breakLine.moves 1).bind fun _ => ?_
  exact (moves_dedent 0).bind fun _ => (inline_append _).moves 0

theorem moves_createPostgresTable (g : Generator) (d : TableDefinition) (model : Option Model) :
    Moves .between (createPostgresTable g d model true) .between := by
  refine ((silent_ofResult _).moves _).bind fun view => ?_
  refine ((silent_ofResult _).moves _).bind fun comments => ?_
  refine ((silent_ofResult _).moves _).bind fun table => ?_
  have hwords : Text.isBlank "CREATE " = false := by decide
  refine moves_words (Text.isBlank_append_left
    (Text.isBlank_append_left (Text.isBlank_append_left hwords _) _) _) ?_
  refine (moves_tableBody _ _ _).bind fun _ => ?_
  refine ((inline_interleaveClause _).moves 0).bind fun _ => ?_
  refine ((inline_storageClause _).moves 0).bind fun _ => ?_
  have hcomment (comment : String) : (do
      g.endLine
      append (commentOnTable table (some comment))).Inline :=
    g.inline_endLine.bind fun _ => inline_append _
  refine ((inline_optionally hcomment).moves 0).bind fun _ => ?_
  exact ((inline_columnComments _ _ _).moves 0).bind fun _ => g.moves_terminateIf _

theorem moves_createTable (g : Generator) (d : TableDefinition) (model : Option Model) :
    Moves .between (createTable g d model true) .between := by
  unfold createTable
  split
  · refine moves_words (by decide) ?_
    refine ((inline_appendName _).moves 0).bind fun _ => ?_
    exact (moves_tableBody _ _ _).bind fun _ => g.moves_terminateIf _
  · exact moves_createPostgresTable g d model

theorem isBlank_tableChanges {table text : String} {new old : AnnotationView}
    (h : text ∈ tableChanges table new old) : Text.isBlank text = false := by
  have halter (rest : String) : Text.isBlank ("ALTER TABLE " ++ table ++ rest) = false :=
    Text.isBlank_append_left (Text.isBlank_append_left (by decide) table) rest
  have hcomment (comment : Option String) :
      Text.isBlank (commentOnTable table comment) = false := by
    have hwords : Text.isBlank "COMMENT ON TABLE " = false :=
      Text.isBlank_ofList_cons (by decide) _
    exact Text.isBlank_append_left
      (Text.isBlank_append_left (Text.isBlank_append_left hwords table) _) _
  have hone {condition : Prop} [Decidable condition] {statement : String}
      (hmem : text ∈ if condition then [] else [statement])
      (hstatement : Text.isBlank statement = false) : Text.isBlank text = false := by
    split at hmem
    · cases hmem
    · rwa [List.mem_singleton.1 hmem]
  simp only [tableChanges, List.mem_append] at h
  rcases h with ((h | h) | h) | h
  · exact hone h (halter _)
  · exact hone h (by simpa only [String.append_assoc] using halter _)
  · exact hone h (by simpa only [String.append_assoc] using halter _)
  · exact hone h (hcomment _)

theorem inline_statements (g : Generator) (texts : List String) :
    (texts.forM g.statement).Inline := by
  induction texts with
  | nil => trivial
  | cons text texts ih => exact (g.inline_statement text).bind fun _ => ih

theorem moves_batch (g : Generator) {texts : List String}
    (h : ∀ text ∈ texts, Text.isBlank text = false) : Moves .between (batch g texts) .between := by
  cases texts with
  | nil => rfl
  | cons text texts =>
    refine .bind ?_ fun _ => moves_close false
    refine (g.moves_statement (h text List.mem_cons_self)).bind fun _ => ?_
    exact (inline_statements g texts).moves 0

theorem moves_alterTable (g : Generator) (table : ObjectName) (annotations old : AnnotationBag) :
    Moves .between (alterTable g table annotations old) .between := by
  unfold alterTable
  split
  · rfl
  · refine ((silent_ofResult _).moves _).bind fun view => ?_
    refine ((silent_ofResult _).moves _).bind fun oldView => ?_
    refine ((silent_ofResult _).moves _).bind fun name => ?_
    exact moves_batch g fun text => isBlank_tableChanges

theorem sentence_dropTable (g : Generator) (table : ObjectName) :
    g.Sentence false (dropTable g table) :=
  sentence_words (by decide) ((inline_appendName _).concludes fun _ => concludes_terminate)

theorem clause_addColumnClause (g : Generator) (table : ObjectName) (column : Column)
    (model : Option Model) : (addColumnClause g table column model).Clause :=
  (clause_append (by decide)).bind fun _ =>
  (plain_appendName _).bind fun _ =>
  (plain_append _).bind fun _ => (clause_columnDefinition _ _ _ _).plain

theorem sentence_addColumn {g : Generator} {column : Column}
    (h : g.dialect ≠ .neutral → isSystemColumn column.name = false) (table : ObjectName)
    (model : Option Model) : g.Sentence false (addColumn g table column model true) := by
  unfold addColumn
  split
  · exact (clause_addColumnClause _ _ _ _).sentence fun _ => concludes_terminateIf
  · next hg =>
    rw [if_neg (by simp [h (by simp [hg])])]
    refine (silent_ofResult _).sentence fun view => ?_
    refine (clause_addColumnClause _ _ _ _).sentence fun _ => ?_
    have hcomment (comment : String) : (do
        let name ← ofResult table.delimit
        g.endLine
        commentOnColumn name column.name (some comment)).Inline :=
      (silent_ofResult _).inline.bind fun _ =>
      g.inline_endLine.bind fun _ => (plain_commentOnColumn _ _ _).inline
    exact (inline_optionally hcomment).concludes fun _ => concludes_terminateIf

theorem moves_addColumn (g : Generator) (table : ObjectName) (column : Column)
    (model : Option Model) : Moves .between (addColumn g table column model true) .between := by
  by_cases h : g.dialect ≠ .neutral → isSystemColumn column.name = false
  · exact (sentence_addColumn h table model).moves
  · simp only [Classical.not_imp, Bool.not_eq_false] at h
    unfold addColumn
    split
    · next hneutral => exact absurd hneutral h.1
    · rw [if_pos h.2]
      rfl

theorem sentence_dropColumn {g : Generator} {column : String}
    (h : g.dialect ≠ .neutral → isSystemColumn column = false) (table : ObjectName) :
    g.Sentence false (dropColumn g table column true) := by
  have hclause : (dropColumnClause table column).Clause :=
    (clause_append (by decide)).bind fun _ =>
    (plain_appendName _).bind fun _ =>
    (plain_append _).bind fun _ => plain_appendName _
  rw [dropColumn, if_neg (by simpa using h)]
  exact hclause.sentence fun _ => concludes_terminateIf

theorem moves_dropColumn (g : Generator) (table : ObjectName) (column : String) :
    Moves .between (dropColumn g table column true) .between := by
  by_cases h : g.dialect ≠ .neutral → isSystemColumn column = false
  · exact (sentence_dropColumn h table).moves
  · rw [dropColumn, if_pos (by simpa using h)]
    rfl

theorem sentence_renameColumn (g : Generator) (table : ObjectName) (column newName : String) :
    g.Sentence false (renameColumn g table column newName) :=
  sentence_words (by decide) <|
    (inline_appendName _).concludes fun _ =>
    (inline_append _).concludes fun _ =>
    (inline_appendName _).concludes fun _ =>
    (inline_append _).concludes fun _ =>
    (inline_appendName _).concludes fun _ => concludes_terminate

theorem sentence_createSequence (g : Generator) (d : SequenceDefinition) :
    g.Sentence false (createSequence g d true) :=
  sentence_words (Text.isBlank_ofList_cons (by decide) _) <|
    (inline_appendName _).concludes fun _ =>
    (silent_sequenceType _ _).inline.concludes fun _ =>
    (inline_optionally fun _ => inline_append _).concludes fun _ =>
    (inline_append _).concludes fun _ =>
    (inline_append _).concludes fun _ => concludes_terminateIf

/-- Left open, the creation of a sequence is text for a statement of its own. -/
theorem clause_createSequence (g : Generator) (d : SequenceDefinition) :
    (createSequence g d false).Clause :=
  (clause_append (Text.isBlank_ofList_cons (by decide) _)).bind fun _ =>
    (plain_appendName _).bind fun _ =>
    (silent_sequenceType _ _).plain.bind fun _ =>
    (plain_optionally fun _ => plain_append _).bind fun _ =>
    (plain_append _).bind fun _ =>
    (plain_append _).bind fun _ => trivial

theorem moves_columnChanges (g : Generator) (tableName columnName : String) (column : Column)
    (view oldView : AnnotationView) (storeType : String) (owned : Option String) {p : Phase}
    (hp : p = .between ∨ p = .inside 0) :
    Moves p (columnChanges g tableName columnName column view oldView storeType owned)
      .between := by
  have hfirst (text : String) : Moves p (g.statement ("ALTER TABLE " ++ text)) (.inside 0) := by
    rcases hp with rfl | rfl
    · exact g.moves_statement (Text.isBlank_append_left (by decide) text)
    · exact (g.inline_statement _).moves 0
  have hcomment : (do
      commentOnColumn tableName column.name view.comment
      g.endLine : Render Unit).Inline :=
    (plain_commentOnColumn _ _ _).inline.bind fun _ => g.inline_endLine
  refine Moves.bind (q := .inside 0) ?_ fun _ => ?_
  · simpa only [String.append_assoc] using hfirst _
  refine ((g.inline_statement _).moves 0).bind fun _ => ?_
  refine ((silent_defaultChange _ _ _).moves _).bind fun change => ?_
  refine ((g.inline_statement _).moves 0).bind fun _ => ?_
  refine ((inline_optionally fun _ => g.inline_statement _).moves 0).bind fun _ => ?_
  refine ((inline_optionally fun _ => g.inline_statement _).moves 0).bind fun _ => ?_
  exact (hcomment.onlyIf.moves 0).bind fun _ => moves_close false

theorem moves_alterColumn (g : Generator) (table : ObjectName) (column old : Column)
    (model : Option Model) : Moves .between (alterColumn g table column old model) .between := by
  unfold alterColumn
  split
  · trivial
  refine ((silent_ofResult _).moves _).bind fun view => ?_
  refine ((silent_ofResult _).moves _).bind fun oldView => ?_
  split
  · rfl
  refine ((silent_columnType _ _ _).moves _).bind fun storeType => ?_
  refine ((silent_ofResult _).onlyIf.moves _).bind fun _ => ?_
  refine ((silent_ofResult _).moves _).bind fun tableName => ?_
  refine ((silent_ofResult _).moves _).bind fun columnName => ?_
  unfold createBackingSequence
  split
  · refine Moves.bind (q := .inside 0) ?_ fun owned =>
      moves_columnChanges _ _ _ _ _ _ _ _ (.inr rfl)
    refine ((silent_ofResult _).moves _).bind fun name => ?_
    exact (clause_createSequence g _).begins.bind fun _ =>
      (g.inline_endLine.moves 0).bind fun _ => rfl
  · exact moves_columnChanges _ _ _ _ _ _ _ _ (.inl rfl)

theorem concludes_indexColumns (g : Generator) (d : IndexDefinition) :
    g.Concludes false (do
      append " ("
      appendColumns d.columns
      append ")"
      filterClause d.filter
      g.terminateIf true) :=
  (inline_append _).concludes fun _ =>
  (plain_appendColumns _).inline.concludes fun _ =>
  (inline_append _).concludes fun _ =>
  (inline_optionally fun _ => inline_append _).concludes fun _ => concludes_terminateIf

theorem sentence_index (g : Generator) (d : IndexDefinition) {rest : Unit → Render Unit}
    (hrest : g.Concludes false (rest ())) :
    g.Sentence false (do
      append "CREATE "
      onlyIf d.unique (append "UNIQUE ")
      append "INDEX "
      appendName { name := d.name }
      append " ON "
      appendName d.table >>= rest) :=
  sentence_words (by decide) <|
    (inline_append _).onlyIf.concludes fun _ =>
    (inline_append _).concludes fun _ =>
    (inline_appendName _).concludes fun _ =>
    (inline_append _).concludes fun _ =>
    (inline_appendName _).concludes fun _ => hrest

theorem sentence_createIndex (g : Generator) (d : IndexDefinition) :
    g.Sentence false (createIndex g d true) := by
  unfold createIndex
  split
  · exact sentence_index g d (concludes_indexColumns g d)
  · exact (silent_ofResult _).sentence fun view => sentence_index g d <|
      (inline_optionally fun _ => inline_append _).concludes fun _ => concludes_indexColumns g d

theorem moves_alterObject (kind : ObjectKind) {rest : Unit → Render Unit} {p : Phase}
    (hp : p = .between ∨ p = .inside 0) (hrest : (rest ()).Inline) :
    Moves p (append ("ALTER " ++ kind.sql ++ " ") >>= rest) (.inside 0) := by
  have hwords : Text.isBlank ("ALTER " ++ kind.sql ++ " ") = false :=
    Text.isBlank_append_left (Text.isBlank_append_left (by decide) _) _
  rcases hp with rfl | rfl
  · exact moves_words hwords (hrest.moves 0)
  · exact ((inline_append _).bind fun _ => hrest).moves 0

theorem moves_renameTo (g : Generator) (kind : ObjectKind) (object : ObjectName)
    (newName : String) : Moves .between (renameTo g kind object newName) (.inside 0) :=
  moves_alterObject kind (.inl rfl) <|
    (inline_appendName _).bind fun _ =>
    (inline_append _).bind fun _ =>
    (inline_appendName _).bind fun _ => g.inline_endLine

theorem moves_moveTo (g : Generator) (kind : ObjectKind) (object : ObjectName)
    (newSchema : String) {p : Phase} (hp : p = .between ∨ p = .inside 0) :
    Moves p (moveTo g kind object newSchema) (.inside 0) :=
  moves_alterObject kind hp <|
    (inline_appendName _).bind fun _ =>
    (inline_append _).bind fun _ =>
    (inline_appendName _).bind fun _ => g.inline_endLine

theorem moves_relocate (g : Generator) (kind : ObjectKind) (r : Relocation) :
    Moves .between (relocate g kind r) .between := by
  unfold relocate
  split
  · trivial
  · cases r.newName.filter _ with
    | none =>
      cases r.newSchema.filter _ with
      | none => rfl
      | some schema => exact (moves_moveTo _ _ _ _ (.inl rfl)).bind fun _ => moves_close false
    | some name =>
      refine (moves_renameTo _ _ _ _).bind fun _ => ?_
      cases r.newSchema.filter _ with
      | none => exact moves_close false
      | some schema => exact (moves_moveTo _ _ _ _ (.inr rfl)).bind fun _ => moves_close false

theorem sentence_dropIndex (g : Generator) (index : ObjectName) :
    g.Sentence false (dropIndex g index) := by
  unfold dropIndex
  split
  · exact sentence_unsupported _ _
  · exact sentence_words (by decide)
      ((inline_appendName _).concludes fun _ => concludes_terminate)

theorem sentence_createSchema (g : Generator) (schema : String) :
    g.Sentence false (do
      append "CREATE SCHEMA IF NOT EXISTS "
      appendName { name := schema }
      g.terminate false) :=
  sentence_words (Text.isBlank_ofList_cons (by decide) _)
    ((inline_appendName _).concludes fun _ => concludes_terminate)

theorem moves_ensureSchema (g : Generator) (schema : String) :
    Moves .between (ensureSchema g schema) .between := by
  unfold ensureSchema
  split
  · trivial
  · split
    · rfl
    · exact (sentence_createSchema g schema).moves

theorem sentence_dropSchema (g : Generator) (schema : String) :
    g.Sentence false (dropSchema g schema) :=
  sentence_words (by decide) ((inline_appendName _).concludes fun _ => concludes_terminate)

theorem sentence_createDatabase (g : Generator) (d : DatabaseDefinition) :
    g.Sentence true (createDatabase g d) := by
  unfold createDatabase
  split
  · exact sentence_unsupported _ _
  · exact sentence_words (Text.isBlank_ofList_cons (by decide) _) <|
      (inline_appendName _).concludes fun _ =>
      (inline_namedClause _ _).concludes fun _ =>
      (inline_namedClause _ _).concludes fun _ => concludes_terminate

theorem moves_dropDatabase (g : Generator) (name : String) :
    Moves .between (dropDatabase g name) .between := by
  unfold dropDatabase
  split
  · trivial
  · have hrevoke : Text.isBlank "REVOKE CONNECT ON DATABASE " = false :=
      Text.isBlank_ofList_cons (by decide) _
    have hselect : Text.isBlank "SELECT pg_terminate_backend(pg_stat_activity." = false :=
      Text.isBlank_ofList_cons (by decide) _
    refine ((silent_ofResult _).moves _).bind fun database => ?_
    refine moves_words (Text.isBlank_append_left (Text.isBlank_append_left hrevoke _) _) ?_
    refine (g.moves_terminate true).bind fun _ => ?_
    refine moves_words (Text.isBlank_append_left
      (Text.isBlank_append_left (Text.isBlank_append_left hselect _) _) _) ?_
    refine (g.moves_terminate true).bind fun _ => ?_
    exact moves_words (Text.isBlank_append_left (Text.isBlank_ofList_cons (by decide) _) _)
      (g.moves_terminate true)

theorem sentence_createExtension (g : Generator) (extension : Extension) :
    g.Sentence true (createExtension g extension) :=
  sentence_words (Text.isBlank_ofList_cons (by decide) _) <|
    (inline_appendName _).concludes fun _ =>
    (inline_namedClause _ _).concludes fun _ =>
    (inline_namedClause _ _).concludes fun _ => concludes_terminate

theorem moves_alterDatabase (g : Generator) (annotations : AnnotationBag) :
    Moves .between (alterDatabase g annotations) .between := by
  unfold alterDatabase
  split
  · trivial
  · refine ((silent_ofResult _).moves _).bind fun view => ?_
    induction view.extensions with
    | nil => rfl
    | cons extension rest ih => exact (sentence_createExtension g extension).moves.bind fun _ => ih

theorem sentence_alterSequence (g : Generator) (sequence : ObjectName)
    (options : SequenceOptions) : g.Sentence false (alterSequence g sequence options) :=
  sentence_words (Text.isBlank_ofList_cons (by decide) _) <|
    (inline_appendName _).concludes fun _ =>
    (inline_append _).concludes fun _ => concludes_terminate

theorem sentence_restartSequence (g : Generator) (sequence : ObjectName) (start : Int64) :
    g.Sentence false (restartSequence g sequence start) :=
  sentence_words (Text.isBlank_ofList_cons (by decide) _) <|
    (inline_appendName _).concludes fun _ =>
    (inline_append _).concludes fun _ => concludes_terminate

theorem sentence_dropSequence (g : Generator) (sequence : ObjectName) :
    g.Sentence false (dropSequence g sequence) :=
  sentence_words (Text.isBlank_ofList_cons (by decide) _)
    ((inline_appendName _).concludes fun _ => concludes_terminate)

theorem sentence_addConstraint (g : Generator) (table : ObjectName) {clause : Render Unit}
    (h : clause.Plain) : g.Sentence false (addConstraint g table clause) :=
  sentence_words (by decide) <|
    (inline_appendName _).concludes fun _ =>
    (inline_append _).concludes fun _ =>
    h.inline.concludes fun _ => concludes_terminate

theorem sentence_dropConstraint (g : Generator) (table : ObjectName) (constraint : String) :
    g.Sentence false (dropConstraint g table constraint) :=
  sentence_words (by decide) <|
    (inline_appendName _).concludes fun _ =>
    (inline_append _).concludes fun _ =>
    (inline_appendName _).concludes fun _ => concludes_terminate

theorem moves_rawSql {text : String} {suppressed : Bool} (h : Text.isBlank text = false) :
    Moves .between (rawSql text suppressed) .between := by
  have htrimmed : Text.isBlank (Text.trimmedEnd text) = false := by
    rwa [Text.isBlank_trimmedEnd]
  refine Moves.bind (q := .inside 0) ?_ fun _ => moves_close suppressed
  exact moves_words htrimmed (inline_breakLine.moves 0)

end Statement

namespace Generator

open Statement

/-- A valid operation leads from one command to the next. -/
theorem moves_dispatch (g : Generator) {op : Operation} (model : Option Model) (h : op.Valid) :
    Moves .between (g.dispatch op model) .between := by
  cases op with
  | createTable d => exact moves_createTable g d model
  | alterTable table annotations old => exact moves_alterTable g table annotations old
  | dropTable table => exact (sentence_dropTable g table).moves
  | addColumn table column => exact moves_addColumn g table column model
  | dropColumn table column => exact moves_dropColumn g table column
  | alterColumn table column old => exact moves_alterColumn g table column old model
  | renameColumn table column newName =>
    rw [dispatch]
    split
    · trivial
    · exact (sentence_renameColumn g table column newName).moves
  | relocate kind r => exact moves_relocate g kind r
  | createIndex d => exact (sentence_createIndex g d).moves
  | dropIndex index table => exact (sentence_dropIndex g index).moves
  | ensureSchema schema => exact moves_ensureSchema g schema
  | dropSchema schema => exact (sentence_dropSchema g schema).moves
  | createDatabase d => exact (sentence_createDatabase g d).moves
  | dropDatabase name => exact moves_dropDatabase g name
  | alterDatabase annotations => exact moves_alterDatabase g annotations
  | createSequence d => exact (sentence_createSequence g d).moves
  | alterSequence sequence options => exact (sentence_alterSequence g sequence options).moves
  | restartSequence sequence start => exact (sentence_restartSequence g sequence start).moves
  | dropSequence sequence => exact (sentence_dropSequence g sequence).moves
  | addPrimaryKey table key =>
    exact (sentence_addConstraint g table (clause_primaryKeyClause key).plain).moves
  | addForeignKey table key =>
    exact (sentence_addConstraint g table (clause_foreignKeyClause key).plain).moves
  | addUnique table key =>
    exact (sentence_addConstraint g table (clause_uniqueClause key).plain).moves
  | dropConstraint kind table constraint =>
    exact (sentence_dropConstraint g table constraint).moves
  | sql text suppressed =>
    exact moves_rawSql (Requirement.holds_statement_iff.1 (h _ (List.mem_singleton.2 rfl)))

end Generator

end SchemaDdl
