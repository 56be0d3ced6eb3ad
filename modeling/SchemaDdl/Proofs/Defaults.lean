import SchemaDdl.Proofs.Statement.ColumnSite

/-!
# What the default of a column shows in

A column gets its default where its table is created, where it is added, and
where it is altered. At each of these places the default stands in one gap
between texts that do not depend on it. Some columns get their values from the
server; then the gap is filled without a look at the default, but which
columns these are differs between a definition and an alteration.
-/

namespace SchemaDdl

open Render Statement

/-! ## Words about a default -/

namespace ColumnSite

/-- The column gets its values in another way, and its default is passed over. -/
def Overrides (column : Column) (strategy : GenerationStrategy) (storeType : String) :
    ColumnSite → Prop
  | altered _ _ => strategy = .serial ∧ isIntegerStoreType storeType = true
  | _ => column.computedSql.isSome = true ∨ strategy.isIdentity = true

def typeText (strategy : GenerationStrategy) (storeType : String) : ColumnSite → String
  | altered _ _ => storeType
  | _ => serialStoreType strategy storeType

def defaultText (column : Column) (strategy : GenerationStrategy) (storeType : String) :
    ColumnSite → String
  | altered table _ =>
    let backing := Alteration.backing? table column.name strategy storeType
    ((Alteration.newDefault? column backing storeType).elim ColumnAction.dropDefault .setDefault).sql
  | _ => column.defaultText strategy (serialStoreType strategy storeType)

end ColumnSite

def Column.withDefault (column : Column) (value : Option Value) (sql : Option String) : Column :=
  { column with defaultValue := value, defaultSql := sql }

section Injectivity

variable {new other : Option String}

theorem elim_default_inj :
    new.elim "" (" DEFAULT " ++ ·) = other.elim "" (" DEFAULT " ++ ·) ↔ new = other := by
  cases new with
  | none => cases other <;> simp
  | some expression => cases other <;> simp [String.append_right_inj]

theorem sql_default_inj :
    (new.elim ColumnAction.dropDefault .setDefault).sql =
      (other.elim ColumnAction.dropDefault .setDefault).sql ↔ new = other := by
  have hwords (expression : String) : " DROP DEFAULT" ≠ " SET DEFAULT " ++ expression := by
    intro h
    have hchars := congrArg String.toList h
    simp at hchars
  cases new with
  | none => cases other <;> simp [ColumnAction.sql, hwords]
  | some expression =>
    cases other <;> simp [ColumnAction.sql, (hwords _).symm, String.append_right_inj]

end Injectivity

variable {column : Column} {value : Option Value} {sql : Option String}

theorem Column.defaultText_eq_iff (strategy : GenerationStrategy) (storeType : String) :
    column.defaultText strategy storeType =
        (column.withDefault value sql).defaultText strategy storeType ↔
      (column.computedSql.isSome = true ∨ strategy.isIdentity = true) ∨
        Alteration.newDefault? column none storeType =
          Alteration.newDefault? (column.withDefault value sql) none storeType := by
  have hcomputed : (column.withDefault value sql).computedSql = column.computedSql := rfl
  rw [Column.defaultText, Column.defaultText, hcomputed]
  by_cases hnone : column.computedSql.isSome = true ∨ strategy.isIdentity = true
  · rw [if_pos hnone, if_pos hnone]
    exact iff_of_true rfl (.inl hnone)
  · rw [if_neg hnone, if_neg hnone, elim_default_inj, or_iff_right hnone]

namespace Column

def around (column : Column) (strategy : GenerationStrategy) (storeType words : String) : String :=
  column.head (serialStoreType strategy storeType) ++ words ++
    if strategy.isIdentity then " " ++ identityClause strategy else ""

theorem frames_around (column : Column) (strategy : GenerationStrategy) (storeType : String) :
    Text.Frames (column.around strategy storeType) :=
  (Text.Frames.self.after_text _).before_text _

theorem definition_eq_around (strategy : GenerationStrategy) (storeType : String) :
    column.definition strategy storeType = column.around strategy storeType
      (column.defaultText strategy (serialStoreType strategy storeType)) := rfl

theorem around_withDefault (strategy : GenerationStrategy) (storeType : String) :
    (column.withDefault value sql).around strategy storeType =
      column.around strategy storeType := rfl

end Column

namespace ColumnSite

/-- The words about two defaults of a column differ exactly where the default counts and is not
the same. -/
theorem defaultText_eq_iff (site : ColumnSite) (strategy : GenerationStrategy)
    (storeType : String) :
    site.defaultText column strategy storeType =
        site.defaultText (column.withDefault value sql) strategy storeType ↔
      site.Overrides column strategy storeType ∨
        Alteration.newDefault? column none (site.typeText strategy storeType) =
          Alteration.newDefault? (column.withDefault value sql) none
            (site.typeText strategy storeType) := by
  cases site with
  | created d before after => exact Column.defaultText_eq_iff strategy _
  | added table => exact Column.defaultText_eq_iff strategy _
  | altered table old =>
    simp only [defaultText, Overrides, typeText, sql_default_inj]
    have hname : (column.withDefault value sql).name = column.name := rfl
    rw [hname, Alteration.backing?]
    by_cases hserial : strategy = .serial ∧ isIntegerStoreType storeType = true
    · rw [if_pos hserial]
      exact iff_of_true rfl (.inl hserial)
    · rw [if_neg hserial, or_iff_right hserial]

variable {g : Generator} {version : Version} {schema : String} {model : Option Model}
  {commands others : List Command}

/-- Two runs with two defaults of a column send one command each, with the same texts around what
they say about the default. -/
def SameBut (site : ColumnSite) (column other : Column) (model : Option Model)
    (commands others : List Command) : Prop :=
  ∃ view storeType frame, AnnotationView.ofBag column.annotations = .ok view ∧
    column.resolvedType? site.table model = some storeType ∧ Text.Frames frame ∧
    commands = [⟨frame (site.defaultText column view.strategy storeType), false⟩] ∧
    others = [⟨frame (site.defaultText other view.strategy storeType), false⟩]

/-- Where a column is defined, the words about its default have their place in the definition. -/
theorem SameAround.sameBut {site : ColumnSite} (hsite : site.IsDefinition)
    (h : site.SameAround column (column.withDefault value sql) model commands others) :
    site.SameBut column (column.withDefault value sql) model commands others := by
  obtain ⟨view, storeType, frame, hview, htype, hframe, hcommands, hothers⟩ := h
  have hwords := hframe.comp (column.frames_around view.strategy storeType)
  rw [Column.definition_eq_around] at hcommands hothers
  rw [Column.around_withDefault] at hothers
  cases site with
  | created d before after => exact ⟨view, storeType, _, hview, htype, hwords, hcommands, hothers⟩
  | added table => exact ⟨view, storeType, _, hview, htype, hwords, hcommands, hothers⟩
  | altered table old => cases hsite

theorem exists_frame_alteration (g : Generator) (version : Version) (table : ObjectName)
    (column old : Column) (view oldView : AnnotationView) (storeType : String)
    (change : Option IdentityStatement) :
    ∃ frame, Text.Frames frame ∧ ∀ value sql,
      Alteration.lines g.terminator table.quoted (Identifier.quote column.name)
          (Alteration.statements version table (column.withDefault value sql) view oldView storeType
            change) =
        frame ((altered table old).defaultText (column.withDefault value sql) view.strategy
          storeType) := by
  let backing := Alteration.backing? table column.name view.strategy storeType
  -- Of all statements only the one about the default looks at it; the backing sequence does not.
  let first : List Alteration :=
    (backing.map fun sequence =>
      .createSequence sequence (Alteration.sequenceType? version storeType)).toList ++
      [.onColumn (.type storeType), .onColumn (.nullability column.nullable)]
  let rest : List Alteration :=
    (backing.map .ownSequence).toList ++
      ((change.map fun statement => .onColumn (.identity statement)).toList ++
        if view.comment = oldView.comment then [] else [.comment view.comment])
  have hstatements (value : Option Value) (sql : Option String) :
      Alteration.statements version table (column.withDefault value sql) view oldView storeType
          change =
        first ++ .onColumn ((Alteration.newDefault? (column.withDefault value sql) backing
          storeType).elim .dropDefault .setDefault) :: rest := by
    simp only [Alteration.statements, Alteration.statements.changes, List.append_assoc,
      List.cons_append, List.nil_append, first, rest]
    rfl
  let texts (statements : List Alteration) : List String :=
    statements.map fun statement => statement.sql table.quoted (Identifier.quote column.name)
  have halter := Text.Frames.self.after_text
    ("ALTER TABLE " ++ table.quoted ++ " ALTER COLUMN " ++ Identifier.quote column.name)
  refine ⟨_, halter.lines g (texts first) (texts rest), fun value sql => ?_⟩
  rw [Alteration.lines_eq, hstatements, List.map_append, List.map_cons, Alteration.sql_onColumn]
  rfl

theorem sameBut_altered (hg : g.dialect = .postgres version schema) {table : ObjectName}
    {old : Column} (hcolumn : isSystemColumn column.name = false)
    (h : g.commandsOf model (.alterColumn table column old) = .ok commands)
    (hother : g.commandsOf model (.alterColumn table (column.withDefault value sql) old) =
      .ok others) :
    (altered table old).SameBut column (column.withDefault value sql) model commands others := by
  obtain ⟨hvalid, hok, rfl⟩ := Generator.commandsOf_eq_ok_iff.1 h
  obtain ⟨hotherValid, hotherOk, rfl⟩ := Generator.commandsOf_eq_ok_iff.1 hother
  obtain ⟨view, oldView, storeType, hview, hold, htype, hsends⟩ :=
    exists_sends_alterColumn g hg hvalid hcolumn ⟨(), hok⟩
  obtain ⟨otherView, otherOldView, otherType, hotherView, hotherOld, hotherType, hotherSends⟩ :=
    exists_sends_alterColumn g hg hotherValid hcolumn ⟨(), hotherOk⟩
  obtain rfl := Except.ok.inj (hview.symm.trans hotherView)
  obtain rfl := Except.ok.inj (hold.symm.trans hotherOld)
  obtain rfl := Option.some.inj (htype.symm.trans hotherType)
  obtain ⟨frame, hframe, htext⟩ := exists_frame_alteration g version table column old view oldView
    storeType (IdentityStatement.between? oldView.strategy.identity? view.strategy.identity?)
  refine ⟨view, storeType, frame, hview, htype, hframe, ?_, ?_⟩
  · have hself := htext column.defaultValue column.defaultSql
    exact hsends.commands_eq.trans (congrArg (fun text => [Command.mk text false]) hself)
  · have hwith := htext value sql
    exact hotherSends.commands_eq.trans (congrArg (fun text => [Command.mk text false]) hwith)

theorem sameBut (hg : g.dialect = .postgres version schema) {site : ColumnSite}
    (hcolumn : isSystemColumn column.name = false)
    (h : g.commandsOf model (site.operation column) = .ok commands)
    (hother : g.commandsOf model (site.operation (column.withDefault value sql)) = .ok others) :
    site.SameBut column (column.withDefault value sql) model commands others := by
  have htwins : column.Twins (column.withDefault value sql) := ⟨rfl, rfl, fun _ _ => rfl⟩
  cases site with
  | created d before after =>
    exact (sameAround_created hg htwins hcolumn h hother).sameBut trivial
  | added table => exact (sameAround_added hg htwins hcolumn h hother).sameBut trivial
  | altered table old => exact sameBut_altered hg hcolumn h hother

end ColumnSite

namespace Generator

/-- The default of a column shows in the commands unless the place of the column passes it over: a
definition does so for computed columns and identities, an alteration for serial columns of an
integer type. -/
theorem generateWith_default_iff (terminator : String) (version : Version) (schema : String)
    (asked askedThen : List TypeQuery) (model : Option Model) (site : ColumnSite) (column : Column)
    (value : Option Value) (sql : Option String) {commands others : List Command}
    (hcolumn : isSystemColumn column.name = false)
    (h : ((⟨terminator, .postgres version schema⟩ : Generator).generateWith (.after asked) model
      [site.operation column]).1 = .ok commands)
    (hother : ((⟨terminator, .postgres version schema⟩ : Generator).generateWith
      (.after askedThen) model [site.operation (column.withDefault value sql)]).1 = .ok others) :
    ∃ view storeType, AnnotationView.ofBag column.annotations = .ok view ∧
      column.resolvedType? site.table model = some storeType ∧
      (commands = others ↔
        site.Overrides column view.strategy storeType ∨
          Alteration.newDefault? column none (site.typeText view.strategy storeType) =
            Alteration.newDefault? (column.withDefault value sql) none
              (site.typeText view.strategy storeType)) := by
  rw [generateWith_eq _ _ _ (Memo.sound_after _), commandsOfAll_singleton] at h hother
  obtain ⟨view, storeType, frame, hview, htype, hframe, rfl, rfl⟩ :=
    ColumnSite.sameBut rfl hcolumn h hother
  refine ⟨view, storeType, hview, htype, ?_⟩
  rw [← site.defaultText_eq_iff, ← hframe.injective]
  simp

/-- The only serial column of a new table, with a default and without one. -/
theorem generateWith_default_iff_created :
    let g : Generator := ⟨";", .postgres ⟨14, 0⟩ "public"⟩
    let site : ColumnSite := .created { table := { name := "orders" } } [] []
    let column : Column := {
      name := "id"
      logical := some (.scalar .int32)
      annotations := .ofList [("Postgres:ValueGenerationStrategy", .text "SerialColumn")] }
    ∃ commands others,
      (g.generateWith (.after []) none [site.operation column]).1 = .ok commands ∧
      (g.generateWith (.after []) none
        [site.operation (column.withDefault (some (.integer 5)) none)]).1 = .ok others ∧
      ∃ view storeType, AnnotationView.ofBag column.annotations = .ok view ∧
        column.resolvedType? site.table none = some storeType ∧
        (commands = others ↔
          site.Overrides column view.strategy storeType ∨
            Alteration.newDefault? column none (site.typeText view.strategy storeType) =
              Alteration.newDefault? (column.withDefault (some (.integer 5)) none) none
                (site.typeText view.strategy storeType)) := by
  intro g site column
  have hok : (g.generateWith (.after []) none [site.operation column]).1.isOk = true := by
    decide +kernel
  have hotherOk : (g.generateWith (.after []) none
      [site.operation (column.withDefault (some (.integer 5)) none)]).1.isOk = true := by
    decide +kernel
  obtain ⟨commands, h⟩ := Result.exists_eq_ok hok
  obtain ⟨others, hother⟩ := Result.exists_eq_ok hotherOk
  have hcolumn : isSystemColumn column.name = false := by decide
  exact ⟨commands, others, h, hother,
    generateWith_default_iff ";" ⟨14, 0⟩ "public" [] [] none site column _ _ hcolumn h hother⟩

/-- A new serial column keeps its default beside that of its sequence, and an identity that is
altered keeps its default beside the identity. -/
theorem generate_default_of_serial_and_identity :
    let table : ObjectName := { name := "t" }
    let column (strategy : String) : Column := {
      name := "c"
      storeType := some "integer"
      annotations := .ofList [("Postgres:ValueGenerationStrategy", .text strategy)] }
    let serial := column "SerialColumn"
    let identity := column "IdentityAlwaysColumn"
    let five (column : Column) : Column := column.withDefault (some (.integer 5)) none
    let sent (op : Operation) : Option (List String) :=
      (Generator.standard.generate none [op]).toOption.map (List.map Command.text)
    sent (.addColumn table serial) = some ["ALTER TABLE \"t\" ADD \"c\" serial NOT NULL;\n"] ∧
      sent (.addColumn table (five serial)) =
        some ["ALTER TABLE \"t\" ADD \"c\" serial NOT NULL DEFAULT 5;\n"] ∧
      sent (.alterColumn table identity identity) =
        some ["ALTER TABLE \"t\" ALTER COLUMN \"c\" TYPE integer;\n" ++
          "ALTER TABLE \"t\" ALTER COLUMN \"c\" SET NOT NULL;\n" ++
          "ALTER TABLE \"t\" ALTER COLUMN \"c\" DROP DEFAULT;\n"] ∧
      sent (.alterColumn table (five identity) identity) =
        some ["ALTER TABLE \"t\" ALTER COLUMN \"c\" TYPE integer;\n" ++
          "ALTER TABLE \"t\" ALTER COLUMN \"c\" SET NOT NULL;\n" ++
          "ALTER TABLE \"t\" ALTER COLUMN \"c\" SET DEFAULT 5;\n"] := by
  decide +kernel

end Generator

end SchemaDdl
