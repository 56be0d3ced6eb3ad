import SchemaDdl.Proofs.Script.Commands
import SchemaDdl.Proofs.Statement.Course
import SchemaDdl.Proofs.StoreType.Integers
import SchemaDdl.Proofs.SuccessCondition

/-!
# Altering a column

A column is altered by a row of statements that are sent as one command. They
are data here, with the text of each: which of them are made, and in which
order, can be read off the column as it was and as it is to be.
-/

namespace SchemaDdl

open Render Statement

/-! ## Identities -/

inductive IdentityKind where
  | always | byDefault
  deriving DecidableEq, Repr

def IdentityKind.sql : IdentityKind → String
  | always => "ALWAYS"
  | byDefault => "BY DEFAULT"

def GenerationStrategy.identity? : GenerationStrategy → Option IdentityKind
  | identityAlways => some .always
  | identityByDefault => some .byDefault
  | _ => Option.none

inductive IdentityStatement where
  | add (kind : IdentityKind)
  | setGenerated (kind : IdentityKind)
  | drop
  deriving DecidableEq, Repr

namespace IdentityStatement

def sql : IdentityStatement → String
  | add kind => "ADD GENERATED " ++ kind.sql ++ " AS IDENTITY"
  | setGenerated kind => "SET GENERATED " ++ kind.sql
  | drop => "DROP IDENTITY"

/-- What the statement makes of the identity of a column. An identity is added only where there is
none, and changed or dropped only where there is one. -/
def replay : IdentityStatement → Option IdentityKind → Option (Option IdentityKind)
  | add kind, none => some (some kind)
  | setGenerated kind, some _ => some (some kind)
  | drop, some _ => some none
  | _, _ => none

/-- The statement, or that there is none, leads from the old identity to the new one. There is none
just when nothing has to change. -/
def Leads (old new : Option IdentityKind) : Option IdentityStatement → Prop
  | none => new = old
  | some statement => new ≠ old ∧ statement.replay old = some new

def between? : Option IdentityKind → Option IdentityKind → Option IdentityStatement
  | none, none => none
  | none, some kind => some (add kind)
  | some _, none => some drop
  | some old, some new => if new = old then none else some (setGenerated new)

theorem leads_between? (old new : Option IdentityKind) : Leads old new (between? old new) := by
  cases old with
  | none => cases new <;> simp [between?, Leads, replay]
  | some old =>
    cases new with
    | none => simp [between?, Leads, replay]
    | some new => by_cases h : new = old <;> simp [between?, Leads, replay, h]

theorem identityChange_eq (strategy old : GenerationStrategy) :
    identityChange strategy old =
      (between? old.identity? strategy.identity?).map fun statement => " " ++ statement.sql := by
  cases strategy <;> cases old <;> decide

end IdentityStatement

/-! ## Statements -/

inductive ColumnAction where
  | type (storeType : String)
  | nullability (nullable : Bool)
  | setDefault (expression : String)
  | dropDefault
  | identity (statement : IdentityStatement)
  deriving DecidableEq, Repr

def ColumnAction.sql : ColumnAction → String
  | type storeType => " TYPE " ++ storeType
  | nullability nullable => if nullable then " DROP NOT NULL" else " SET NOT NULL"
  | setDefault expression => " SET DEFAULT " ++ expression
  | dropDefault => " DROP DEFAULT"
  | identity statement => " " ++ statement.sql

inductive Alteration where
  /-- The type of the sequence may be left out. -/
  | createSequence (sequence : ObjectName) (storeType : Option String)
  | onColumn (action : ColumnAction)
  | ownSequence (sequence : ObjectName)
  | comment (text : Option String)
  deriving DecidableEq, Repr

def Value.literalAs (storeType : String) (value : Value) : String :=
  match ({ storeName := some storeType } : TypeQuery).resolve with
  | some d => d.literal value
  | none => value.literal

/-- The type that a column has, from the first source that has one: the column, the model, or the
logical type. -/
def Column.resolvedType? (column : Column) (table : ObjectName) (model : Option Model) :
    Option String :=
  (column.storeType.filter fun t => !Text.isBlank t).or <|
    (model.bind fun m => m.storeType? table.schema table.name column.name).or <|
      column.logical.bind fun logical =>
        let q : TypeQuery := {
          logical := some logical
          size := column.maxLength
          fixedLength := column.fixedLength }
        q.resolve.map Descriptor.storeType

namespace Alteration

def parts (table column : String) : Alteration → List String
  | createSequence sequence storeType =>
    ["CREATE SEQUENCE ", sequence.quoted, storeType.elim "" (" AS " ++ ·),
      " START WITH 1 INCREMENT BY 1 NO MINVALUE NO MAXVALUE NO CYCLE"]
  | onColumn action => ["ALTER TABLE ", table, " ALTER COLUMN ", column, action.sql]
  | ownSequence sequence => ["ALTER SEQUENCE ", sequence.quoted, " OWNED BY ", table, ".", column]
  | comment text => ["COMMENT ON COLUMN ", table, ".", column, " IS ", commentText text]

def sql (table column : String) (statement : Alteration) : String :=
  String.join (statement.parts table column)

theorem sql_onColumn (table column : String) (action : ColumnAction) :
    sql table column (.onColumn action) =
      "ALTER TABLE " ++ table ++ " ALTER COLUMN " ++ column ++ action.sql := by
  simp [sql, parts, String.append_assoc]

def backing? (table : ObjectName) (column : String) (strategy : GenerationStrategy)
    (storeType : String) : Option ObjectName :=
  if strategy = .serial ∧ isIntegerStoreType storeType = true then
    some ⟨table.schema, BackingSequence.name table.name column⟩
  else none

/-- The type of a sequence for an integer column, where it is written: a `bigint` is what a
sequence counts in anyway, and before version 10 there is no other. -/
def sequenceType? (version : Version) (storeType : String) : Option String :=
  if version.atLeast ⟨10, 0⟩ then
    match IntegerWidth.ofStoreType? storeType with
    | some .small => some "smallint"
    | some .regular => some "integer"
    | _ => none
  else none

/-- The next value of the sequence, or else an expression, or else the literal of a value. -/
def newDefault? (column : Column) (backing : Option ObjectName) (storeType : String) :
    Option String :=
  match backing, column.defaultSql, column.defaultValue with
  | some sequence, _, _ => some ("(" ++ ("nextval(" ++ Value.quote sequence.quoted ++ ")") ++ ")")
  | none, some expression, _ => some ("(" ++ expression ++ ")")
  | none, none, some value => some (value.literalAs storeType)
  | none, none, none => none

def statements (version : Version) (table : ObjectName) (column : Column)
    (view oldView : AnnotationView) (storeType : String) (change : Option IdentityStatement) :
    List Alteration :=
  let backing := backing? table column.name view.strategy storeType
  (backing.map fun sequence => createSequence sequence (sequenceType? version storeType)).toList ++
    changes column view oldView storeType backing change
where
  changes (column : Column) (view oldView : AnnotationView) (storeType : String)
      (backing : Option ObjectName) (change : Option IdentityStatement) : List Alteration :=
    [onColumn (.type storeType), onColumn (.nullability column.nullable),
      onColumn ((newDefault? column backing storeType).elim .dropDefault .setDefault)] ++
      (backing.map ownSequence).toList ++
      (change.map fun statement => onColumn (.identity statement)).toList ++
      if view.comment = oldView.comment then [] else [comment view.comment]

theorem statements_ne_nil (version : Version) (table : ObjectName) (column : Column)
    (view oldView : AnnotationView) (storeType : String) (change : Option IdentityStatement) :
    statements version table column view oldView storeType change ≠ [] := by
  simp [statements, statements.changes]

/-- The statements as one text, each with the terminator and the end of its line. The names of the
table and the column are quoted already. -/
def lines (terminator table column : String) (statements : List Alteration) : String :=
  String.join (statements.map fun statement => statement.sql table column ++ terminator ++ "\n")

theorem lines_append (terminator table column : String) (first second : List Alteration) :
    lines terminator table column (first ++ second) =
      lines terminator table column first ++ lines terminator table column second := by
  rw [lines, List.map_append, String.join_append]
  rfl

theorem lines_eq (g : Generator) (table column : String) (statements : List Alteration) :
    lines g.terminator table column statements =
      g.lines (statements.map fun statement => statement.sql table column) := by
  rw [lines, Generator.lines, List.map_map]
  rfl

end Alteration

/-! ## What is written -/

namespace Statement

open Alteration

theorem columnType_eq_ok_iff {table : ObjectName} {column : Column} {model : Option Model}
    {storeType : String} :
    (columnType table column model).result = .ok storeType ↔
      column.resolvedType? table model = some storeType := by
  rw [columnType, Column.resolvedType?]
  cases column.storeType.filter fun t => !Text.isBlank t with
  | some named => simp [result_pure]
  | none =>
    cases model.bind fun m => m.storeType? table.schema table.name column.name with
    | some modelled => simp [result_pure]
    | none =>
      cases column.logical with
      | none => simp [ofResult, Render.result]
      | some logical =>
        simp only [Option.none_or, Option.bind_some, result_bind, result_require, result_pure]
        cases TypeQuery.resolve _ with
        | none => simp [TypeQuery.required, Result.bind_eq_ok_iff]
        | some d => simp [TypeQuery.required, Result.bind_eq_ok_iff]

theorem exists_resolvedType?_iff {table : ObjectName} {column : Column} {model : Option Model} :
    (∃ storeType, column.resolvedType? table model = some storeType) ↔ column.Typed table model := by
  rw [← succeeds_columnType, Succeeds]
  exact exists_congr fun storeType => columnType_eq_ok_iff.symm

theorem result_literal (value : Value) (storeType : String) :
    (Render.literal value (some storeType)).result = .ok (value.literalAs storeType) := by
  rw [Render.literal, result_bind, result_find, Value.literalAs]
  cases TypeQuery.resolve _ <;> rfl

theorem result_defaultClause (column : Column) (backing : Option ObjectName)
    (storeType : String) :
    let (value, sql) := alteredSource column (backing.map ObjectName.quoted)
    (defaultClause value sql storeType).result =
      .ok ((newDefault? column backing storeType).elim "" (" DEFAULT " ++ ·)) := by
  have hexpression (expression : String) :
      " DEFAULT (" ++ expression ++ ")" = " DEFAULT " ++ ("(" ++ expression ++ ")") := by
    have hwords : " DEFAULT (" = " DEFAULT " ++ "(" := by decide
    rw [hwords]
    simp only [String.append_assoc]
  cases backing with
  | some sequence => exact congrArg Except.ok (hexpression _)
  | none =>
    simp only [Option.map_none, alteredSource, defaultClause, newDefault?]
    cases column.defaultSql with
    | some expression => exact congrArg Except.ok (hexpression expression)
    | none =>
      cases column.defaultValue with
      | some value =>
        rw [result_bind, result_literal]
        rfl
      | none => rfl

/-- There is something to make a default from exactly if there is a default. -/
theorem isSome_alteredSource (column : Column) (backing : Option ObjectName)
    (storeType : String) :
    let (value, sql) := alteredSource column (backing.map ObjectName.quoted)
    (value.isSome || sql.isSome) = (newDefault? column backing storeType).isSome := by
  cases backing with
  | some sequence => rfl
  | none =>
    simp only [Option.map_none, alteredSource, newDefault?]
    cases column.defaultSql <;> cases column.defaultValue <;> rfl

theorem sql_setDefault (expression : String) :
    (ColumnAction.setDefault expression).sql = " SET" ++ (" DEFAULT " ++ expression) := by
  have hwords : " SET DEFAULT " = " SET" ++ " DEFAULT " := by decide
  rw [ColumnAction.sql, hwords, String.append_assoc]

theorem result_defaultChange (column : Column) (backing : Option ObjectName)
    (storeType : String) :
    (defaultChange column (backing.map ObjectName.quoted) storeType).result =
      .ok ((newDefault? column backing storeType).elim ColumnAction.dropDefault
        .setDefault).sql := by
  have hclause := result_defaultClause column backing storeType
  have hsome := isSome_alteredSource column backing storeType
  simp only at hclause hsome
  simp only [defaultChange, hsome]
  cases hnew : newDefault? column backing storeType with
  | none => rfl
  | some expression =>
    rw [hnew] at hclause
    rw [Option.isSome_some, if_pos rfl, result_bind, hclause]
    exact congrArg Except.ok (sql_setDefault expression).symm

theorem result_namedSequenceType {logical : LogicalType} {d : Descriptor}
    (hnamed : logical ≠ .scalar .int64)
    (hd : ({ logical := some logical } : TypeQuery).resolve = some d) :
    (namedSequenceType logical).result = .ok (some d.storeType) := by
  rw [namedSequenceType, if_neg hnamed, result_bind, result_require, hd]
  rfl

theorem sequenceLogical_eq (storeType : String) :
    sequenceLogical storeType =
      match IntegerWidth.ofStoreType? storeType with
      | some .small => .scalar .int16
      | some .regular => .scalar .int32
      | _ => .scalar .int64 := by
  generalize hwidth : IntegerWidth.ofStoreType? storeType = width
  unfold IntegerWidth.ofStoreType? at hwidth
  split at hwidth
  all_goals
    subst hwidth
    simp [sequenceLogical, *]

theorem result_sequenceType {g : Generator} {version : Version} {schema : String}
    (hg : g.dialect = .postgres version schema) (storeType : String) :
    (sequenceType g (sequenceLogical storeType)).result =
      .ok (sequenceType? version storeType) := by
  rw [sequenceType, hg, sequenceType?, sequenceLogical_eq]
  simp only
  split
  · split
    · have hd : ({ logical := some (.scalar .int16) } : TypeQuery).resolve =
          some (.scalar "smallint" none .plain) := by decide +kernel
      exact result_namedSequenceType (by decide) hd
    · have hd : ({ logical := some (.scalar .int32) } : TypeQuery).resolve =
          some (.scalar "integer" none .plain) := by decide +kernel
      exact result_namedSequenceType (by decide) hd
    · rfl
  · rfl

variable (g : Generator)

theorem writes_alteration {table column text : String} (statement : Alteration)
    (h : text = statement.sql table column) :
    (g.statement text).Writes () (lines g.terminator table column [statement]) := by
  rw [h]
  exact (writes_statement g _).congr (by simp [lines])

theorem writes_onColumn (table column : String) {text : String} (action : ColumnAction)
    (h : text = action.sql) :
    (g.statement ("ALTER TABLE " ++ table ++ " ALTER COLUMN " ++ column ++ text)).Writes ()
      (lines g.terminator table column [.onColumn action]) :=
  writes_alteration g _ (by rw [h, sql_onColumn])

theorem writes_type (table column storeType : String) :
    (g.statement ("ALTER TABLE " ++ table ++ " ALTER COLUMN " ++ column ++ " TYPE " ++
      storeType)).Writes () (lines g.terminator table column [.onColumn (.type storeType)]) :=
  writes_alteration g _ (by simp [sql_onColumn, ColumnAction.sql, String.append_assoc])

theorem writes_ownSequence (table column : String) (backing : Option ObjectName) :
    (optionally (backing.map ObjectName.quoted) fun sequence =>
      g.statement ("ALTER SEQUENCE " ++ sequence ++ " OWNED BY " ++ table ++ "." ++ column)).Writes
        () (lines g.terminator table column (backing.map ownSequence).toList) := by
  cases backing with
  | none => exact writes_pure ()
  | some sequence => exact writes_alteration g _ (by simp [sql, parts, String.append_assoc])

theorem writes_identityChange (table column : String) (strategy old : GenerationStrategy) :
    (optionally (identityChange strategy old) fun change =>
      g.statement ("ALTER TABLE " ++ table ++ " ALTER COLUMN " ++ column ++ change)).Writes ()
        (lines g.terminator table column
          ((IdentityStatement.between? old.identity? strategy.identity?).map fun statement =>
            .onColumn (.identity statement)).toList) := by
  rw [IdentityStatement.identityChange_eq]
  cases IdentityStatement.between? old.identity? strategy.identity? with
  | none => exact writes_pure ()
  | some statement => exact writes_onColumn g table column (.identity statement) rfl

theorem writes_commentChange (table : String) {column : String} (h : Identifier.Valid column)
    (new old : Option String) :
    (onlyIf (new ≠ old) do
      commentOnColumn table column new
      g.endLine).Writes ()
        (lines g.terminator table (Identifier.quote column)
          (if new = old then [] else [.comment new])) := by
  by_cases hsame : new = old
  · rw [onlyIf, if_neg (not_not_intro hsame), if_pos hsame]
    exact writes_pure ()
  · rw [onlyIf, if_pos hsame, if_neg hsame]
    have hcomment : (commentOnColumn table column new).Writes () _ :=
      (writes_append _).then ((writes_appendName (ObjectName.valid_of_name.2 h)).then
        (writes_append _))
    refine (hcomment.then (writes_endLine g)).congr ?_
    simp [lines, sql, parts, ObjectName.quoted, String.append_assoc]

theorem isBlank_lines_onColumn (terminator table column : String) (action : ColumnAction) :
    Text.isBlank (lines terminator table column [.onColumn action]) = false := by
  simp only [lines, sql, parts, List.map_cons, List.map_nil, String.join_cons, String.append_assoc]
  exact Text.isBlank_append_left (by decide) _

theorem writes_createSequence {version : Version} {schema : String}
    (hg : g.dialect = .postgres version schema) {sequence : ObjectName} (h : sequence.Valid)
    (storeType table column : String) :
    (Statement.createSequence g { sequence, logical := sequenceLogical storeType } false).Writes ()
      ((Alteration.createSequence sequence (sequenceType? version storeType)).sql table column) := by
  have hoptions : " START WITH " ++ Numeral.ofInt (1 : Int64).toInt ++ sequenceOptionsText {} =
      " START WITH 1 INCREMENT BY 1 NO MINVALUE NO MAXVALUE NO CYCLE" := by decide +kernel
  have htype := (silent_sequenceType g (sequenceLogical storeType)).writes
    (result_sequenceType hg storeType)
  refine ((writes_append _).then ((writes_appendName h).then (htype.then
    ((writes_optionally fun storeType _ => writes_append (" AS " ++ storeType)).then
    ((writes_append _).then ((writes_append _).then (writes_pure ()))))))).congr ?_
  rw [sql, parts, ← hoptions]
  simp [String.append_assoc]

theorem writes_backing {version : Version} {schema : String}
    (hg : g.dialect = .postgres version schema) {sequence : ObjectName} (h : sequence.Valid)
    (storeType table column : String) :
    Writes (do
        let name ← ofResult sequence.delimit
        Statement.createSequence g { sequence, logical := sequenceLogical storeType } false
        g.endLine
        pure (some name))
      (some sequence.quoted)
      (lines g.terminator table column
        [.createSequence sequence (sequenceType? version storeType)]) := by
  refine ((writes_ofResult (ObjectName.delimit_eq_ok_iff.2 ⟨h, rfl⟩)).then
    ((writes_createSequence g hg h storeType table column).then
      ((writes_endLine g).then (writes_pure (some sequence.quoted))))).congr ?_
  simp [lines, String.append_assoc]

theorem writes_createBackingSequence {version : Version} {schema : String}
    (hg : g.dialect = .postgres version schema) {table : ObjectName} (htable : table.Valid)
    {column : Column} (hname : Identifier.Valid column.name) (strategy : GenerationStrategy)
    (storeType : String) :
    let backing := backing? table column.name strategy storeType
    (createBackingSequence g table column strategy storeType).Writes
      (backing.map ObjectName.quoted)
      (lines g.terminator table.quoted (Identifier.quote column.name)
        (backing.map fun sequence =>
          .createSequence sequence (sequenceType? version storeType)).toList) := by
  intro backing
  unfold createBackingSequence
  split
  · next hserial =>
    have hbacking : backing = some ⟨table.schema, BackingSequence.name table.name column.name⟩ :=
      if_pos hserial
    have hsequence : ObjectName.Valid ⟨table.schema, BackingSequence.name table.name column.name⟩ :=
      ⟨BackingSequence.valid_name htable.1 hname, htable.2⟩
    rw [hbacking]
    exact writes_backing g hg hsequence storeType _ _
  · next hother =>
    have hbacking : backing = none := if_neg hother
    rw [hbacking]
    exact writes_pure _

theorem sends_columnChanges (table : String) {column : Column}
    (hname : Identifier.Valid column.name) (view oldView : AnnotationView)
    (storeType : String) (backing : Option ObjectName) (pending : String) :
    (columnChanges g table (Identifier.quote column.name) column view oldView storeType
        (backing.map ObjectName.quoted)).Sends pending
      [⟨pending ++ lines g.terminator table (Identifier.quote column.name)
        (statements.changes column view oldView storeType backing
          (IdentityStatement.between? oldView.strategy.identity? view.strategy.identity?)),
        false⟩] := by
  -- In the order of `changes`; what is pending grows by one line at a time up to the close.
  have hnullability :=
    writes_onColumn g table (Identifier.quote column.name) (.nullability column.nullable) rfl
  have hchange := (silent_defaultChange column _ storeType).writes
    (result_defaultChange column backing storeType)
  have hdefault := writes_onColumn g table (Identifier.quote column.name)
    ((newDefault? column backing storeType).elim .dropDefault .setDefault) rfl
  refine (writes_type g table _ storeType).sends (hnullability.sends (hchange.sends (hdefault.sends
    ((writes_ownSequence g table _ backing).sends
    ((writes_identityChange g table _ view.strategy oldView.strategy).sends
    ((writes_commentChange g table hname view.comment oldView.comment).sends
    ((sends_close ?_ false).congr ?_)))))))
  · simp [isBlank_lines_onColumn]
  · simp [statements.changes, ← lines_append, String.append_assoc]

theorem sends_alterColumn {version : Version} {schema : String}
    (hg : g.dialect = .postgres version schema) {table : ObjectName} (htable : table.Valid)
    {column old : Column} (hname : Identifier.Valid column.name)
    (hcolumn : isSystemColumn column.name = false) {model : Option Model}
    {view oldView : AnnotationView} (hview : AnnotationView.ofBag column.annotations = .ok view)
    (holdView : AnnotationView.ofBag old.annotations = .ok oldView) {storeType : String}
    (htype : column.resolvedType? table model = some storeType)
    (hversion : view.strategy.isIdentity || oldView.strategy.isIdentity → version.atLeast ⟨10, 0⟩) :
    (alterColumn g table column old model).Sends ""
      [⟨lines g.terminator table.quoted (Identifier.quote column.name)
        (statements version table column view oldView storeType
          (IdentityStatement.between? oldView.strategy.identity? view.strategy.identity?)),
        false⟩] := by
  rw [alterColumn, hg]
  -- All that can fail comes first and writes nothing.
  refine (writes_ofResult hview).sends ((writes_ofResult holdView).sends ?_)
  rw [if_neg (by rw [hcolumn]; exact Bool.false_ne_true)]
  have htyped := (silent_columnType table column model).writes (columnType_eq_ok_iff.2 htype)
  have hdemand : (onlyIf (view.strategy.isIdentity || oldView.strategy.isIdentity)
      (ofResult (version.demand ⟨10, 0⟩ "Identity columns"))).Writes () "" := by
    refine (writes_onlyIf fun h => ?_).congr (ite_self "")
    exact writes_ofResult (Version.demand_eq_ok_iff.2 (hversion h))
  refine htyped.sends (hdemand.sends
    ((writes_ofResult (ObjectName.delimit_eq_ok_iff.2 ⟨htable, rfl⟩)).sends
    ((writes_ofResult (Identifier.delimit_eq_ok_iff.2 ⟨hname, rfl⟩)).sends
    ((writes_createBackingSequence g hg htable hname view.strategy storeType).sends
    ((sends_columnChanges g table.quoted hname view oldView storeType _ _).congr ?_)))))
  simp [statements, lines_append]

theorem exists_sends_alterColumn {version : Version} {schema : String}
    (hg : g.dialect = .postgres version schema) {table : ObjectName} {column old : Column}
    {model : Option Model} (hvalid : (Operation.alterColumn table column old).Valid)
    (hcolumn : isSystemColumn column.name = false)
    (h : (alterColumn g table column old model).Succeeds) :
    ∃ view oldView storeType, AnnotationView.ofBag column.annotations = .ok view ∧
      AnnotationView.ofBag old.annotations = .ok oldView ∧
      column.resolvedType? table model = some storeType ∧
      (alterColumn g table column old model).Sends ""
        [⟨lines g.terminator table.quoted (Identifier.quote column.name)
          (statements version table column view oldView storeType
            (IdentityStatement.between? oldView.strategy.identity? view.strategy.identity?)),
          false⟩] := by
  obtain ⟨htable, hname⟩ := Requirement.valid_of_column hvalid
  obtain ⟨view, hview, oldView, hold, hneeds⟩ := (succeeds_alterColumn hg htable hname).1 h
  obtain ⟨htyped, hversion⟩ := hneeds hcolumn
  obtain ⟨storeType, htype⟩ := exists_resolvedType?_iff.2 htyped
  exact ⟨view, oldView, storeType, hview, hold, htype,
    sends_alterColumn g hg htable hname hcolumn hview hold htype hversion⟩

theorem commands_alterColumn_of_system {version : Version} {schema : String}
    (hg : g.dialect = .postgres version schema) (table : ObjectName) {column : Column}
    (hcolumn : isSystemColumn column.name = true) (old : Column) (model : Option Model) :
    (alterColumn g table column old model).commands = [] := by
  have hsilent : (alterColumn g table column old model).edits = [] := by
    apply Silent.edits_eq_nil
    rw [alterColumn, hg]
    refine (silent_ofResult _).bind fun _ => (silent_ofResult _).bind fun _ => ?_
    rw [if_pos hcolumn]
    trivial
  rw [Render.commands, hsilent]
  rfl

end Statement

namespace Script

/-- An alteration that compiles adds one command, with the statements that the column as it is to
be and as it was call for, and leaves nothing else behind. -/
theorem compile_alterColumn (builder : Builder) (asked : List TypeQuery) (terminator : String)
    (version : Version) (schema : String) (model : Option Model) (table : ObjectName)
    (column old : Column) {after : Script} (hpending : builder.pending = "")
    (hdepth : builder.depth = 0) (hcolumn : isSystemColumn column.name = false)
    (h : compile ⟨builder, .after asked⟩ ⟨terminator, .postgres version schema⟩ model
      (.alterColumn table column old) = (.ok (), after)) :
    ∃ view oldView storeType change,
      AnnotationView.ofBag column.annotations = .ok view ∧
        AnnotationView.ofBag old.annotations = .ok oldView ∧
        column.resolvedType? table model = some storeType ∧
        IdentityStatement.Leads oldView.strategy.identity? view.strategy.identity? change ∧
        after.builder = {
          commands := builder.commands ++ [
            ⟨Alteration.lines terminator table.quoted (Identifier.quote column.name)
              (Alteration.statements version table column view oldView storeType change),
              false⟩] } := by
  have hmemo := Memo.sound_after asked
  have hg : (⟨terminator, .postgres version schema⟩ : Generator).dialect =
      .postgres version schema := rfl
  obtain ⟨hvalid, hsucceeds⟩ := (compile_eq_ok_iff _ hmemo _ _ _).1 (congrArg Prod.fst h)
  obtain ⟨htable, hnames⟩ := List.forall_mem_append.1 (Operation.validate_eq_ok_iff.1 hvalid)
  have htable := Requirement.valid_of_object htable
  have hname := Requirement.valid_of_name (List.forall_mem_singleton.1 hnames)
  obtain ⟨view, hview, oldView, holdView, hneeds⟩ :=
    (succeeds_alterColumn hg htable hname).1 hsucceeds
  obtain ⟨htyped, hversion⟩ := hneeds hcolumn
  obtain ⟨storeType, hresult⟩ := succeeds_columnType.2 htyped
  have htype := columnType_eq_ok_iff.1 hresult
  refine ⟨view, oldView, storeType, _, hview, holdView, htype,
    IdentityStatement.leads_between? _ _, ?_⟩
  rw [builder_compile hmemo h]
  exact (sends_alterColumn _ hg htable hname hcolumn hview holdView htype hversion).run_edits
    (moves_alterColumn _ _ _ _ _) (List.cons_ne_nil _ _) hpending hdepth

/-- An identity column becomes a serial one and gets a comment. -/
theorem compile_alterColumn_serial :
    let table : ObjectName := { schema := some "app", name := "order" }
    let column : Column := {
      name := "id"
      logical := some (.scalar .int32)
      annotations := .ofList [
        ("Postgres:ValueGenerationStrategy", .text "SerialColumn"),
        ("Postgres:Comment", .text "it's new")] }
    let old : Column := {
      name := "id"
      annotations := .ofList
        [("Postgres:ValueGenerationStrategy", .text "IdentityAlwaysColumn")] }
    ∃ after, compile ⟨{}, .after []⟩ ⟨";", .postgres ⟨14, 0⟩ "public"⟩ none
        (.alterColumn table column old) = (.ok (), after) ∧
      ∃ view oldView storeType change,
        AnnotationView.ofBag column.annotations = .ok view ∧
          AnnotationView.ofBag old.annotations = .ok oldView ∧
          column.resolvedType? table none = some storeType ∧
          IdentityStatement.Leads oldView.strategy.identity? view.strategy.identity? change ∧
          after.builder = {
            commands := [] ++ [
              ⟨Alteration.lines ";" table.quoted (Identifier.quote column.name)
                (Alteration.statements ⟨14, 0⟩ table column view oldView storeType change),
                false⟩] } := by
  intro table column old
  have hok : (compile ⟨{}, .after []⟩ ⟨";", .postgres ⟨14, 0⟩ "public"⟩ none
      (.alterColumn table column old)).1.isOk = true := by decide +kernel
  cases h : compile ⟨{}, .after []⟩ ⟨";", .postgres ⟨14, 0⟩ "public"⟩ none
      (.alterColumn table column old) with
  | mk result after =>
    rw [h] at hok
    cases result with
    | ok =>
      exact ⟨after, rfl,
        compile_alterColumn {} [] ";" ⟨14, 0⟩ "public" none table column old rfl rfl (by decide) h⟩
    | error e => cases hok

example :
    let view : AnnotationView := { strategy := .serial, comment := some "it's new" }
    let oldView : AnnotationView := { strategy := .identityAlways }
    Alteration.lines ";" "t" "c" (Alteration.statements ⟨14, 0⟩ { name := "t" } { name := "c" } view
        oldView "integer" (some .drop)) =
      "CREATE SEQUENCE \"t_c_seq\" AS integer START WITH 1 INCREMENT BY 1 NO MINVALUE " ++
        "NO MAXVALUE NO CYCLE;\nALTER TABLE t ALTER COLUMN c TYPE integer;\n" ++
        "ALTER TABLE t ALTER COLUMN c SET NOT NULL;\n" ++
        "ALTER TABLE t ALTER COLUMN c SET DEFAULT (nextval('\"t_c_seq\"'));\n" ++
        "ALTER SEQUENCE \"t_c_seq\" OWNED BY t.c;\nALTER TABLE t ALTER COLUMN c DROP IDENTITY;\n" ++
        "COMMENT ON COLUMN t.c IS 'it''s new';\n" := by
  decide +kernel

end Script

end SchemaDdl
