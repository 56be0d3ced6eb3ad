import SchemaDdl.Proofs.Alteration
import SchemaDdl.Proofs.Composition
import SchemaDdl.Proofs.Quoting.Reading

/-!
# The sequence behind a column

Three statements refer to the sequence that an alteration creates: the one that
creates it, the new default of the column, which names it inside a literal, and
the one that makes the column its owner. Read back, they all mean the same
sequence and the same column.
-/

namespace SchemaDdl

open Render Sql Sql.Fragment Statement

namespace Sql

def createdSequence? (statement : String) : Option ObjectName := do
  let read ← lex? statement
  let read ← skip? "CREATE SEQUENCE " read
  let (sequence, _) ← object? read
  pure sequence

/-- The column that gets the next value of a sequence as its default, and the text of the literal
that says which sequence. -/
def nextValue? (statement : String) : Option ((ObjectName × String) × String) := do
  let read ← lex? statement
  let read ← skip? "ALTER TABLE " read
  let (table, read) ← object? read
  let read ← skip? " ALTER COLUMN " read
  let (column, read) ← quoted? .identifier read
  let read ← skip? " SET DEFAULT (nextval(" read
  let (sequence, read) ← quoted? .literal read
  let read ← skip? "))" read
  if read.isEmpty then some ((table, column), sequence) else none

def ownedSequence? (statement : String) : Option (ObjectName × (ObjectName × String)) := do
  let read ← lex? statement
  let read ← skip? "ALTER SEQUENCE " read
  let (sequence, read) ← object? read
  let read ← skip? " OWNED BY " read
  let (column, read) ← column? read
  if read.isEmpty then some (sequence, column) else none

end Sql

namespace Alteration

theorem sequenceType?_cases (version : Version) (storeType : String) :
    sequenceType? version storeType = none ∨ sequenceType? version storeType = some "smallint" ∨
      sequenceType? version storeType = some "integer" := by
  rw [sequenceType?]
  split
  · split <;> simp
  · exact .inl rfl

theorem sql_createSequence (sequence : ObjectName) (storeType : Option String)
    (table column : String) :
    (createSequence sequence storeType).sql table column =
      "CREATE SEQUENCE " ++ sequence.quoted ++ (storeType.elim "" (" AS " ++ ·) ++
        " START WITH 1 INCREMENT BY 1 NO MINVALUE NO MAXVALUE NO CYCLE") := by
  simp [sql, parts, String.append_assoc]

theorem sql_ownSequence (sequence : ObjectName) (table column : String) :
    (ownSequence sequence).sql table column =
      "ALTER SEQUENCE " ++ sequence.quoted ++ " OWNED BY " ++ (table ++ "." ++ column) := by
  simp [sql, parts, String.append_assoc]

variable (sequence table : ObjectName) (column : String)

theorem createdSequence?_sql (version : Version) (storeType : String) :
    createdSequence? ((createSequence sequence (sequenceType? version storeType)).sql
      table.quoted (Identifier.quote column)) = some sequence := by
  let options := (sequenceType? version storeType).elim "" (" AS " ++ ·) ++
    " START WITH 1 INCREMENT BY 1 NO MINVALUE NO MAXVALUE NO CYCLE"
  have hoptions : (options ≠ "" ∧ Unquoted options) ∧
      options.toList.head?.any (· ≠ '.') = true := by
    unfold options
    rcases sequenceType?_cases version storeType with h | h | h <;> rw [h] <;> decide
  let fragments := words "CREATE SEQUENCE " :: (sequence.fragments ++ [words options])
  have hparted : Parted fragments :=
    .words (by decide) (sequence.parted_fragments.append (.words hoptions.1 .nil))
  have htext : (createSequence sequence (sequenceType? version storeType)).sql table.quoted
      (Identifier.quote column) = render fragments := by
    simp [fragments, options, sql_createSequence, render_cons, render_append,
      ObjectName.render_fragments, String.append_assoc]
  simp only [createdSequence?, htext, hparted.lex?_render, fragments, skip?_words,
    object?_fragments sequence (endsName_words hoptions.2 []), Option.bind_eq_bind,
    Option.bind_some]
  rfl

/-- The text of the literal is read as it is, whatever quotes it holds. -/
theorem nextValue?_sql (text : String) :
    nextValue? ((onColumn (.setDefault ("(" ++ ("nextval(" ++ Value.quote text ++ ")") ++ ")"))).sql
      table.quoted (Identifier.quote column)) = some ((table, column), text) := by
  let fragments := words "ALTER TABLE " :: (table.fragments ++ [words " ALTER COLUMN ",
    identifier column, words " SET DEFAULT (nextval(", quoted .literal text, words "))"])
  have hparted : Parted fragments :=
    .words (by decide) (table.parted_fragments.append (.words (by decide) (.quoted _ _
      (.words (by decide) (.quoted _ _ (.words (by decide) .nil))))))
  have htext : (onColumn (.setDefault ("(" ++ ("nextval(" ++ Value.quote text ++ ")") ++ ")"))).sql
      table.quoted (Identifier.quote column) = render fragments := by
    have hopen : " SET DEFAULT (nextval(" = " SET DEFAULT " ++ "(" ++ "nextval(" := by decide
    have hclose : "))" = ")" ++ ")" := by decide
    rw [sql_onColumn, ColumnAction.sql]
    simp only [fragments, render_cons, render_append, ObjectName.render_fragments, sql_words,
      sql_identifier, sql_literal, render_nil]
    rw [hopen, hclose]
    simp only [String.append_assoc, String.append_empty]
  have hends := endsName_words (s := " ALTER COLUMN ") (by decide)
    [identifier column, words " SET DEFAULT (nextval(", quoted .literal text, words "))"]
  rw [nextValue?, htext, hparted.lex?_render]
  simp only [fragments, skip?_words, object?_fragments table hends, quoted?_identifier,
    quoted?_quoted, Option.bind_eq_bind, Option.bind_some]
  rfl

theorem ownedSequence?_sql :
    ownedSequence? ((ownSequence sequence).sql table.quoted (Identifier.quote column)) =
      some (sequence, (table, column)) := by
  let owner := dotted (table.names ++ [column])
  let fragments := words "ALTER SEQUENCE " :: (sequence.fragments ++ words " OWNED BY " :: owner)
  have hparted : Parted fragments :=
    .words (by decide) (sequence.parted_fragments.append (.words (by decide) (parted_dotted _)))
  have htext : (ownSequence sequence).sql table.quoted (Identifier.quote column) =
      render fragments := by
    simp [fragments, owner, sql_ownSequence, render_cons, render_append,
      ObjectName.render_fragments, render_dotted_column, String.append_assoc]
  have hends := endsName_words (s := " OWNED BY ") (by decide) owner
  have howner := column?_dotted table column endsName_nil
  rw [List.append_nil] at howner
  simp only [ownedSequence?, htext, hparted.lex?_render, fragments, skip?_words,
    object?_fragments sequence hends, owner, howner, Option.bind_eq_bind, Option.bind_some]
  rfl

/-- The command for a serial column of an integer type, and no other one, begins with the creation
of a sequence. -/
theorem creates_iff {terminator quotedTable quotedColumn : String} {version : Version}
    {table : ObjectName} {column : Column} {view oldView : AnnotationView} {storeType : String}
    {change : Option IdentityStatement} :
    "CREATE SEQUENCE ".toList <+: (lines terminator quotedTable quotedColumn
        (statements version table column view oldView storeType change)).toList ↔
      view.strategy = .serial ∧ isIntegerStoreType storeType = true := by
  rw [statements, backing?]
  by_cases hserial : view.strategy = .serial ∧ isIntegerStoreType storeType = true
  · rw [if_pos hserial]
    refine iff_of_true ?_ hserial
    simp only [Option.map_some, Option.toList_some, List.singleton_append, lines, List.map_cons,
      String.join_cons, sql_createSequence, String.append_assoc, String.toList_append]
    exact List.prefix_append _ _
  · rw [if_neg hserial]
    refine iff_of_false ?_ hserial
    rintro ⟨after, hafter⟩
    simp [statements.changes, lines, sql, parts] at hafter

end Alteration

namespace Generator

/-- The row of statements creates the sequence, makes its next value the default of the column and
makes the column its owner. The sequence goes by one name, which stands in a literal for the default
and which is read as the sequence. -/
def RefersTo (statements : List String) (table : ObjectName) (column : String)
    (sequence : ObjectName) : Prop :=
  ∃ name creation typed nullable defaulted owned rest,
    statements = creation :: typed :: nullable :: defaulted :: owned :: rest ∧
      readObject? name = some sequence ∧
      (∃ options, creation = "CREATE SEQUENCE " ++ name ++ options) ∧
      createdSequence? creation = some sequence ∧
      nextValue? defaulted = some ((table, column), name) ∧
      (∃ owner, owned = "ALTER SEQUENCE " ++ name ++ " OWNED BY " ++ owner) ∧
      ownedSequence? owned = some (sequence, (table, column))

theorem exists_creates_of_serial {g : Generator} {version : Version} {schema : String}
    (hg : g.dialect = .postgres version schema) {model : Option Model} {table : ObjectName}
    {column old : Column} (hvalid : (Operation.alterColumn table column old).Valid)
    (hcolumn : isSystemColumn column.name = false) {view oldView : AnnotationView}
    (hview : AnnotationView.ofBag column.annotations = .ok view)
    (holdView : AnnotationView.ofBag old.annotations = .ok oldView) {storeType : String}
    (htype : column.resolvedType? table model = some storeType)
    (hserial : view.strategy = .serial) (hinteger : isIntegerStoreType storeType = true)
    (hversion : oldView.strategy.isIdentity = true → version.atLeast ⟨10, 0⟩) {memo : Memo}
    (hmemo : memo.Sound) :
    ∃ command, (g.generateWith memo model [.alterColumn table column old]).1 = .ok [command] ∧
      "CREATE SEQUENCE ".toList <+: command.text.toList := by
  obtain ⟨htable, hname⟩ := Requirement.valid_of_column hvalid
  have hidentity : view.strategy.isIdentity = false := by rw [hserial]; rfl
  have hsends := sends_alterColumn g hg htable hname hcolumn hview holdView htype
    (by rwa [hidentity, Bool.false_or])
  exact ⟨_, generateWith_eq_of_sends hmemo (Operation.validate_eq_ok_iff.2 hvalid) hsends,
    Alteration.creates_iff.2 ⟨hserial, hinteger⟩⟩

/-- An alteration whose command begins with the creation of a sequence creates the one that is named
after the table and the column, in the schema of the table, and everything that the command says of
a sequence it says of this one. -/
theorem generateWith_backingSequence (terminator : String) (version : Version) (schema : String)
    (asked : List TypeQuery) (model : Option Model) (table : ObjectName) (column old : Column)
    {commands : List Command}
    (h : ((⟨terminator, .postgres version schema⟩ : Generator).generateWith (.after asked) model
      [.alterColumn table column old]).1 = .ok commands)
    (hcreates : ∃ command ∈ commands, "CREATE SEQUENCE ".toList <+: command.text.toList) :
    let g : Generator := ⟨terminator, .postgres version schema⟩
    ∃ statements, commands = [⟨g.lines statements, false⟩] ∧
      RefersTo statements table column.name
        ⟨table.schema, BackingSequence.name table.name column.name⟩ := by
  intro g
  have hg : g.dialect = .postgres version schema := rfl
  rw [generateWith_eq _ _ _ (Memo.sound_after asked), commandsOfAll_singleton] at h
  obtain ⟨hvalid, hok, rfl⟩ := commandsOf_eq_ok_iff.1 h
  obtain ⟨command, hcommand, hbegins⟩ := hcreates
  have hcolumn : isSystemColumn column.name = false := by
    refine eq_false_of_ne_true fun hsystem => ?_
    rw [dispatch, commands_alterColumn_of_system g hg table hsystem] at hcommand
    cases hcommand
  obtain ⟨view, oldView, storeType, -, -, -, hsends⟩ :=
    exists_sends_alterColumn g hg hvalid hcolumn ⟨(), hok⟩
  have hcommands := hsends.commands_eq
  rw [dispatch, hcommands, List.mem_singleton] at hcommand
  rw [hcommand] at hbegins
  rw [Alteration.lines_eq, Alteration.statements, Alteration.backing?,
    if_pos (Alteration.creates_iff.1 hbegins)] at hcommands
  let sequence : ObjectName := ⟨table.schema, BackingSequence.name table.name column.name⟩
  exact ⟨_, hcommands, sequence.quoted, _, _, _, _, _, _, rfl, readObject?_quoted sequence,
    ⟨_, Alteration.sql_createSequence sequence _ _ _⟩,
    Alteration.createdSequence?_sql sequence table column.name version storeType,
    Alteration.nextValue?_sql table column.name sequence.quoted,
    ⟨_, Alteration.sql_ownSequence sequence _ _⟩,
    Alteration.ownedSequence?_sql sequence table column.name⟩

/-- All names hold quotes, and both parts of the name of the sequence are clipped. -/
theorem generateWith_backingSequence_quotes :
    let g : Generator := ⟨";", .postgres ⟨9, 6⟩ "public"⟩
    let table : ObjectName := ⟨some "it's \"new\"", "das \"größte\" Verzeichnis aller Kunden"⟩
    let column : Column := {
      name := "die 'laufende' Nummer des Kunden"
      storeType := some "INT8"
      annotations := .ofList [("Postgres:ValueGenerationStrategy", .text "SerialColumn")] }
    ∃ commands, (g.generateWith (.after []) none [.alterColumn table column {}]).1 = .ok commands ∧
      (∃ command ∈ commands, "CREATE SEQUENCE ".toList <+: command.text.toList) ∧
      ∃ statements, commands = [⟨g.lines statements, false⟩] ∧
        RefersTo statements table column.name
          ⟨table.schema, BackingSequence.name table.name column.name⟩ := by
  intro g table column
  have hvalid : (Operation.alterColumn table column {}).Valid := by decide +kernel
  have hserial : (AnnotationView.ofBag column.annotations).toOption.map
      AnnotationView.strategy = some .serial := by decide +kernel
  cases hview : AnnotationView.ofBag column.annotations with
  | error e =>
    rw [hview] at hserial
    cases hserial
  | ok view =>
    rw [hview] at hserial
    have hstrategy := Option.some.inj hserial
    have hg : g.dialect = .postgres ⟨9, 6⟩ "public" := rfl
    have htype : column.resolvedType? table none = some "INT8" := rfl
    have hinteger : isIntegerStoreType "INT8" = true := by decide +kernel
    obtain ⟨command, hsent, hbegins⟩ := exists_creates_of_serial hg hvalid (by decide) hview rfl
      htype hstrategy hinteger nofun (Memo.sound_after [])
    have hcreates : ∃ command' ∈ [command], "CREATE SEQUENCE ".toList <+: command'.text.toList :=
      ⟨command, List.mem_singleton_self command, hbegins⟩
    exact ⟨_, hsent, hcreates,
      generateWith_backingSequence ";" ⟨9, 6⟩ "public" [] none table column {} hsent hcreates⟩

end Generator

end SchemaDdl
