import SchemaDdl.Proofs.Dialects
import SchemaDdl.Proofs.Statement.Definition

/-!
# Plain columns

A column without annotations of the server and without a computation can be
added to a table, and a column of a table can be altered to it. Two routines
write it, and both say the same of it: its type, whether values may be missing,
and its default. Where its type cannot be told both fail with the same error.
-/

namespace SchemaDdl

open Render Statement

structure PlainColumn where
  name : String
  storeType : String
  notNull : Bool
  /-- Empty if there is no default. -/
  clause : String

namespace PlainColumn

def definition (plain : PlainColumn) : String :=
  Identifier.quote plain.name ++ " " ++ plain.storeType ++
    (if plain.notNull then " NOT NULL" else "") ++ plain.clause

/-- What is done to a column of the same name to make it the plain one. -/
def actions (plain : PlainColumn) : List String :=
  [" TYPE " ++ plain.storeType,
    if plain.notNull then " SET NOT NULL" else " DROP NOT NULL",
    if plain.clause = "" then " DROP DEFAULT" else " SET" ++ plain.clause]

def added (g : Generator) (table : ObjectName) (plain : PlainColumn) : List Command :=
  [⟨g.lines ["ALTER TABLE " ++ table.quoted ++ " ADD " ++ plain.definition], false⟩]

def altered (g : Generator) (table : ObjectName) (plain : PlainColumn) : List Command :=
  [⟨g.lines (plain.actions.map fun action =>
    "ALTER TABLE " ++ table.quoted ++ " ALTER COLUMN " ++ Identifier.quote plain.name ++ action),
    false⟩]

end PlainColumn

namespace Column

/-- The column is not one of the server, and says nothing that only a server understands. -/
structure Plain (column : Column) : Prop where
  named : isSystemColumn column.name = false
  foreign : column.annotations.Foreign
  stored : column.computedSql = none

/-- What is to be written of a column, if its type can be told. -/
def plain (column : Column) (table : ObjectName) (model : Option Model) : Result PlainColumn := do
  let storeType ← (columnType table column model).result
  let clause ← (defaultClause column.defaultValue column.defaultSql storeType).result
  pure { name := column.name, storeType, notNull := !column.nullable, clause }

def plainAs (column : Column) (storeType : String) : PlainColumn where
  name := column.name
  storeType
  notNull := !column.nullable
  clause := (Alteration.newDefault? column none storeType).elim "" (" DEFAULT " ++ ·)

variable {column : Column}

theorem plain_eq (table : ObjectName) (model : Option Model) :
    column.plain table model = (columnType table column model).result.map column.plainAs := by
  rw [plain]
  cases (columnType table column model).result with
  | error e => rfl
  | ok storeType =>
    have hclause := result_defaultClause column none storeType
    exact congrArg (· >>= fun clause => pure (PlainColumn.mk _ _ _ clause)) hclause

/-- The clause is empty exactly if there is no default. -/
theorem sql_default (new : Option String) :
    (new.elim ColumnAction.dropDefault .setDefault).sql =
      if new.elim "" (" DEFAULT " ++ ·) = "" then " DROP DEFAULT"
      else " SET" ++ new.elim "" (" DEFAULT " ++ ·) := by
  cases new with
  | none => rfl
  | some expression =>
    have hne : " DEFAULT " ++ expression ≠ "" := by simp
    rw [Option.elim_some, Option.elim_some, if_neg hne, sql_setDefault]

theorem definition_plainAs (hstored : column.computedSql = none) (storeType : String) :
    column.definition .none storeType = (column.plainAs storeType).definition := by
  have hidentity : GenerationStrategy.none.isIdentity = false := rfl
  cases hnullable : column.nullable <;>
    simp [definition, head, defaultText, serialStoreType, PlainColumn.definition, plainAs, hstored,
      hidentity, hnullable]

theorem actions_plainAs (version : Version) (table : ObjectName) (column : Column)
    (storeType : String) :
    (Alteration.statements version table column {} {} storeType none).map
        (Alteration.sql table.quoted (Identifier.quote column.name)) =
      (column.plainAs storeType).actions.map fun action =>
        "ALTER TABLE " ++ table.quoted ++ " ALTER COLUMN " ++ Identifier.quote column.name ++
          action := by
  -- Without annotations neither a sequence nor a comment is involved.
  have hbacking : Alteration.backing? table column.name .none storeType = none :=
    if_neg fun h => nomatch h.1
  have hnullability : (ColumnAction.nullability column.nullable).sql =
      if !column.nullable then " SET NOT NULL" else " DROP NOT NULL" := by
    cases column.nullable <;> rfl
  simp only [Alteration.statements, Alteration.statements.changes, hbacking, Option.map_none,
    Option.toList_none, List.nil_append, List.append_nil, if_true, List.map_cons, List.map_nil,
    Alteration.sql_onColumn, hnullability, sql_default]
  rfl

end Column

namespace Statement

variable {terminator : String} {version : Version} {schema : String} {model : Option Model}
  {table : ObjectName} {column old : Column}

theorem result_addColumn_of_error (hcolumn : column.Plain) (htable : table.Valid) {e : DdlError}
    (h : (columnType table column model).result = .error e) :
    (addColumn ⟨terminator, .postgres version schema⟩ table column model true).result =
      .error e := by
  -- The neutral rendering asks for the type as soon as the name of the table stands.
  rw [addColumn_neutral hcolumn.foreign hcolumn.named (by simp [hcolumn.stored])]
  simp only [addColumn, addColumnClause, columnDefinition, result_bind, (writes_append _).1,
    (writes_appendName htable).1, h]
  rfl

theorem result_alterColumn_of_error (hcolumn : column.Plain) (hold : old.annotations.Foreign)
    {e : DdlError} (h : (columnType table column model).result = .error e) :
    (alterColumn ⟨terminator, .postgres version schema⟩ table column old model).result =
      .error e := by
  simp only [alterColumn, alterPostgresColumn, AnnotationView.ofBag_of_foreign hcolumn.foreign,
    AnnotationView.ofBag_of_foreign hold, ofResult_ok_bind, hcolumn.named, Bool.false_eq_true,
    if_false, result_bind, h]
  rfl

theorem sends_addColumn_plain (hcolumn : column.Plain)
    (hvalid : (Operation.addColumn table column).Valid) {storeType : String}
    (h : (columnType table column model).result = .ok storeType) :
    (addColumn ⟨terminator, .postgres version schema⟩ table column model true).Sends ""
      ((column.plainAs storeType).added ⟨terminator, .postgres version schema⟩ table) := by
  obtain ⟨htable, hname⟩ := Requirement.valid_of_column hvalid
  have hview := AnnotationView.ofBag_of_foreign hcolumn.foreign
  have hsucceeds :
      (addColumn ⟨terminator, .postgres version schema⟩ table column model true).Succeeds :=
    (succeeds_addColumn rfl htable hname).2 fun _ =>
      (succeeds_columnDefinition rfl hname).2
        ⟨{}, hview, by simp [hcolumn.stored], nofun, succeeds_columnType.1 ⟨storeType, h⟩⟩
  obtain ⟨view, other, hother, htype, hsends⟩ :=
    exists_sends_addColumn rfl hvalid hcolumn.named hsucceeds
  obtain rfl : {} = view := Except.ok.inj (hview.symm.trans hother)
  obtain rfl : storeType = other := Except.ok.inj (h.symm.trans (columnType_eq_ok_iff.2 htype))
  rw [PlainColumn.added, ← Column.definition_plainAs hcolumn.stored]
  exact hsends

theorem sends_alterColumn_plain (hcolumn : column.Plain) (hold : old.annotations.Foreign)
    (hvalid : (Operation.alterColumn table column old).Valid) {storeType : String}
    (h : (columnType table column model).result = .ok storeType) :
    (alterColumn ⟨terminator, .postgres version schema⟩ table column old model).Sends ""
      ((column.plainAs storeType).altered ⟨terminator, .postgres version schema⟩ table) := by
  obtain ⟨htable, hname⟩ := Requirement.valid_of_column hvalid
  have hview := AnnotationView.ofBag_of_foreign hcolumn.foreign
  have holdView := AnnotationView.ofBag_of_foreign hold
  have hsends := sends_alterColumn ⟨terminator, .postgres version schema⟩ rfl htable hname
    hcolumn.named hview holdView (columnType_eq_ok_iff.1 h) nofun
  rw [Alteration.lines_eq] at hsends
  exact hsends.congr (congrArg (fun texts => [(⟨Generator.lines _ texts, false⟩ : Command)])
    (Column.actions_plainAs version table column storeType))

end Statement

namespace Generator

variable {model : Option Model} {table : ObjectName} {column old : Column}

/-- An operation that fails as the type of a column does, and writes what is to be written of the
column where there is one, gives the commands of the plain column. -/
theorem commandsOf_eq_map_plain {g : Generator} {op : Operation} {sent : PlainColumn → List Command}
    (hvalid : op.Valid)
    (herror : ∀ e, (columnType table column model).result = .error e →
      (g.dispatch op model).result = .error e)
    (hsends : ∀ storeType, (columnType table column model).result = .ok storeType →
      (g.dispatch op model).Sends "" (sent (column.plainAs storeType))) :
    g.commandsOf model op = (column.plain table model).map sent := by
  rw [commandsOf, Operation.validate_eq_ok_iff.2 hvalid, Column.plain_eq]
  cases htype : (columnType table column model).result with
  | error e =>
    rw [herror e htype]
    rfl
  | ok storeType =>
    have h := hsends storeType htype
    rw [h.1, h.commands_eq]
    rfl

/-- A plain column is added and altered with the same outcome, whatever stands in the script and
whatever types were looked up before: both operations are refused with one error, or the commands of
both are written from the same type, nullability and default. The names that are checked are those
of the table and the column in either case. -/
theorem generateWith_plain (terminator : String) (version : Version) (schema : String)
    (builder builderThen : Builder) (asked askedThen : List TypeQuery) (model : Option Model)
    (table : ObjectName) (column old : Column) (hcolumn : column.Plain)
    (hold : old.annotations.Foreign)
    (hadd : (Operation.addColumn table column).validate = .ok ())
    (halter : (Operation.alterColumn table column old).validate = .ok ()) :
    let g : Generator := ⟨terminator, .postgres version schema⟩
    (Script.compile ⟨builder, .after asked⟩ g model (.addColumn table column)).1 =
        (Script.compile ⟨builderThen, .after askedThen⟩ g model
          (.alterColumn table column old)).1 ∧
      (g.generateWith (.after asked) model [.addColumn table column]).1 =
        (column.plain table model).map (PlainColumn.added g table) ∧
      (g.generateWith (.after askedThen) model [.alterColumn table column old]).1 =
        (column.plain table model).map (PlainColumn.altered g table) := by
  intro g
  have haddValid := Operation.validate_eq_ok_iff.1 hadd
  have halterValid := Operation.validate_eq_ok_iff.1 halter
  obtain ⟨htable, -⟩ := Requirement.valid_of_column haddValid
  have hadded : g.commandsOf model (.addColumn table column) =
      (column.plain table model).map (PlainColumn.added g table) :=
    commandsOf_eq_map_plain haddValid
      (fun _ => result_addColumn_of_error hcolumn htable)
      (fun _ => sends_addColumn_plain hcolumn haddValid)
  have haltered : g.commandsOf model (.alterColumn table column old) =
      (column.plain table model).map (PlainColumn.altered g table) :=
    commandsOf_eq_map_plain halterValid (fun _ => result_alterColumn_of_error hcolumn hold)
      (fun _ => sends_alterColumn_plain hcolumn hold halterValid)
  refine ⟨?_, ?_, ?_⟩
  · rw [Script.result_compile _ (Memo.sound_after _), Script.result_compile _ (Memo.sound_after _),
      hadded, haltered]
    cases column.plain table model <;> rfl
  · rw [generateWith_eq _ _ _ (Memo.sound_after _), commandsOfAll_singleton, hadded]
  · rw [generateWith_eq _ _ _ (Memo.sound_after _), commandsOfAll_singleton, haltered]

/-- The annotation is not one of the server, and the logical type decides the type and how the value
is written. -/
theorem generateWith_plain_text :
    let g : Generator := ⟨";", .postgres ⟨9, 6⟩ "public"⟩
    let table : ObjectName := { schema := some "app", name := "note" }
    let column : Column := {
      name := "it's \"new\""
      logical := some (.scalar .string)
      maxLength := some 80
      defaultValue := some (.text "it's new")
      annotations := .ofList [("Other:Comment", .text "ignored")] }
    let old : Column := { name := "old", storeType := some "integer" }
    column.Plain ∧ old.annotations.Foreign ∧
      (Operation.addColumn table column).validate = .ok () ∧
      (Operation.alterColumn table column old).validate = .ok () ∧
      (Script.compile ⟨{}, .after []⟩ g none (.addColumn table column)).1 =
        (Script.compile ⟨{ pending := "--" }, .after []⟩ g none
          (.alterColumn table column old)).1 ∧
      (g.generateWith (.after []) none [.addColumn table column]).1 =
        (column.plain table none).map (PlainColumn.added g table) ∧
      (g.generateWith (.after []) none [.alterColumn table column old]).1 =
        (column.plain table none).map (PlainColumn.altered g table) := by
  intro g table column old
  have hcolumn : column.Plain := ⟨by decide, by decide +kernel, rfl⟩
  have hold : old.annotations.Foreign := by decide
  have hvalid : (Operation.addColumn table column).Valid := by decide +kernel
  have hadd := Operation.validate_eq_ok_iff.2 hvalid
  have halter : (Operation.alterColumn table column old).validate = .ok () :=
    Operation.validate_eq_ok_iff.2 hvalid
  exact ⟨hcolumn, hold, hadd, halter, generateWith_plain ";" ⟨9, 6⟩ "public" {} { pending := "--" }
    [] [] none table column old hcolumn hold hadd halter⟩

example :
    let column : Column := {
      name := "c", logical := some (.scalar .string), nullable := true
      defaultValue := some (.text "it's new") }
    (column.plain { name := "t" } none).toOption.map
        (fun plain => (plain.definition, plain.actions)) =
      some ("\"c\" text DEFAULT 'it''s new'",
        [" TYPE text", " DROP NOT NULL", " SET DEFAULT 'it''s new'"]) := by
  decide +kernel

end Generator

end SchemaDdl
