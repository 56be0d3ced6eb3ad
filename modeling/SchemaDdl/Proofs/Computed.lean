import SchemaDdl.Proofs.Statement.ColumnSite

/-!
# What the computation of a column shows in

Where a column is defined, the expression that computes it is written in front
of its nullability, in the place of a default. An alteration says nothing about
it, neither in what is sent nor in what is refused.
-/

namespace SchemaDdl

open Render Statement

variable {column : Column} {computed : Option String}

namespace Column

def withComputed (column : Column) (computed : Option String) : Column :=
  { column with computedSql := computed }

theorem twins_withComputed (column : Column) (computed : Option String) :
    column.Twins (column.withComputed computed) := ⟨rfl, rfl, fun _ _ => rfl⟩

/-- The words about the values of a column: their computation, whether they may be missing, and
their default. -/
def valueText (column : Column) (strategy : GenerationStrategy) (storeType : String) : String :=
  column.computedSql.elim "" (fun computed => " GENERATED ALWAYS AS (" ++ computed ++ ") STORED") ++
    (if column.nullable then "" else " NOT NULL") ++ column.defaultText strategy storeType

def aroundValue (column : Column) (strategy : GenerationStrategy) (storeType words : String) :
    String :=
  Identifier.quote column.name ++ " " ++ serialStoreType strategy storeType ++ words ++
    if strategy.isIdentity then " " ++ identityClause strategy else ""

theorem frames_aroundValue (column : Column) (strategy : GenerationStrategy) (storeType : String) :
    Text.Frames (column.aroundValue strategy storeType) :=
  (Text.Frames.self.after_text _).before_text _

theorem definition_eq_aroundValue (column : Column) (strategy : GenerationStrategy)
    (storeType : String) :
    column.definition strategy storeType = column.aroundValue strategy storeType
      (column.valueText strategy (serialStoreType strategy storeType)) := by
  simp only [definition, head, aroundValue, valueText, String.append_assoc]

theorem defaultText_cases (column : Column) (strategy : GenerationStrategy) (storeType : String) :
    column.defaultText strategy storeType = "" ∨
      ∃ expression, column.defaultText strategy storeType = " DEFAULT " ++ expression := by
  rw [defaultText]
  split
  · exact .inl rfl
  · cases Alteration.newDefault? column none storeType with
    | none => exact .inl rfl
    | some expression => exact .inr ⟨expression, rfl⟩

theorem valueText_ne_of_computed (hnone : column.computedSql = none)
    (strategy : GenerationStrategy) (storeType rest : String) :
    column.valueText strategy storeType ≠ " GENERATED ALWAYS AS (" ++ rest := by
  intro h
  have hchars := congrArg String.toList h
  -- The letter after the blank tells the words apart.
  rw [valueText, hnone] at hchars
  cases hnullable : column.nullable with
  | false => simp [hnullable] at hchars
  | true =>
    rcases column.defaultText_cases strategy storeType with hdefault | ⟨expression, hdefault⟩
    all_goals simp [hnullable, hdefault] at hchars

theorem valueText_of_computed {expression : String} (h : column.computedSql = some expression)
    (strategy : GenerationStrategy) (storeType : String) :
    column.valueText strategy storeType =
      " GENERATED ALWAYS AS (" ++ (expression ++ (") STORED" ++
        if column.nullable then "" else " NOT NULL")) := by
  simp [valueText, defaultText, h, String.append_assoc]

theorem valueText_withComputed_eq_iff (strategy : GenerationStrategy) (storeType : String) :
    column.valueText strategy storeType =
        (column.withComputed computed).valueText strategy storeType ↔
      column.computedSql = computed := by
  constructor
  · intro h
    cases hcolumn : column.computedSql with
    | none =>
      cases computed with
      | none => rfl
      | some expression =>
        have hcomputed : (column.withComputed (some expression)).computedSql = some expression :=
          rfl
        rw [valueText_of_computed hcomputed] at h
        exact absurd h (valueText_ne_of_computed hcolumn _ _ _)
    | some old =>
      rw [valueText_of_computed hcolumn] at h
      cases computed with
      | none => exact absurd h.symm (valueText_ne_of_computed rfl _ _ _)
      | some expression =>
        have hcomputed : (column.withComputed (some expression)).computedSql = some expression :=
          rfl
        rw [valueText_of_computed hcomputed] at h
        have hexpressions := (String.append_left_inj _).1 ((String.append_right_inj _).1 h)
        rw [hexpressions]
  · rintro rfl
    rfl

end Column

namespace Generator

/-- An alteration does not look at the computation of the column. -/
theorem commandsOf_alterColumn_withComputed (g : Generator) (model : Option Model)
    (table : ObjectName) (old : Column) :
    g.commandsOf model (.alterColumn table (column.withComputed computed) old) =
      g.commandsOf model (.alterColumn table column old) := rfl

theorem computedSql_eq_of_commandsOf {g : Generator} {version : Version} {schema : String}
    (hg : g.dialect = .postgres version schema) {model : Option Model} {site : ColumnSite}
    (hsite : site.IsDefinition) (hcolumn : isSystemColumn column.name = false)
    {commands : List Command} (h : g.commandsOf model (site.operation column) = .ok commands)
    (hother : g.commandsOf model (site.operation (column.withComputed computed)) = .ok commands) :
    column.computedSql = computed := by
  have htwins := column.twins_withComputed computed
  obtain ⟨view, storeType, frame, -, -, hframe, hcommands, hothers⟩ :=
    ColumnSite.sameAround hg hsite htwins hcolumn h hother
  have hwords := hframe.comp (column.frames_aroundValue view.strategy storeType)
  rw [Column.definition_eq_aroundValue] at hcommands hothers
  have htexts := congrArg (List.map Command.text) (hcommands.symm.trans hothers)
  have hsame := hwords.injective.1 (List.singleton_inj.1 htexts)
  exact (Column.valueText_withComputed_eq_iff _ _).1 hsame

/-- Two columns that differ at most in their computation give the same commands, if one of them
gives any, wherever they are altered, and never where they are defined unless the computation is
the same. -/
theorem generateWith_computed_iff (terminator : String) (version : Version) (schema : String)
    (asked askedThen : List TypeQuery) (model : Option Model) (site : ColumnSite) (column : Column)
    (computed : Option String) (hcolumn : isSystemColumn column.name = false) :
    let g : Generator := ⟨terminator, .postgres version schema⟩
    (∃ commands, (g.generateWith (.after asked) model [site.operation column]).1 = .ok commands ∧
        (g.generateWith (.after askedThen) model
          [site.operation (column.withComputed computed)]).1 = .ok commands) ↔
      (∃ commands, (g.generateWith (.after asked) model [site.operation column]).1 =
        .ok commands) ∧ (site.IsDefinition → column.computedSql = computed) := by
  intro g
  simp only [generateWith_eq _ _ _ (Memo.sound_after _), commandsOfAll_singleton]
  constructor
  · rintro ⟨commands, h, hother⟩
    refine ⟨⟨commands, h⟩, fun hsite => ?_⟩
    exact computedSql_eq_of_commandsOf rfl hsite hcolumn h hother
  · rintro ⟨⟨commands, h⟩, hsame⟩
    refine ⟨commands, h, ?_⟩
    cases site with
    | created d before after =>
      obtain rfl := hsame trivial
      exact h
    | added table =>
      obtain rfl := hsame trivial
      exact h
    | altered table old =>
      change g.commandsOf model (.alterColumn table _ old) = _
      rw [commandsOf_alterColumn_withComputed]
      exact h

/-- A serial column whose type the model gives, altered on a server that has no computed columns. -/
theorem generateWith_computed_iff_altered :
    let g : Generator := ⟨";", .postgres ⟨9, 6⟩ "public"⟩
    let site : ColumnSite := .altered { name := "orders" } {}
    let column : Column := {
      name := "total"
      annotations := .ofList [("Postgres:ValueGenerationStrategy", .text "SerialColumn")] }
    let model : Model := {
      tables := [{
        name := "orders"
        columns := [{ name := "total", storeType := some "bigint" }] }] }
    isSystemColumn column.name = false ∧
      ((∃ commands, (g.generateWith (.after []) (some model) [site.operation column]).1 =
            .ok commands ∧
          (g.generateWith (.after []) (some model)
            [site.operation (column.withComputed (some "price * 2"))]).1 = .ok commands) ↔
        (∃ commands, (g.generateWith (.after []) (some model) [site.operation column]).1 =
          .ok commands) ∧ (site.IsDefinition → column.computedSql = some "price * 2")) := by
  intro g site column model
  have hcolumn : isSystemColumn column.name = false := by decide
  exact ⟨hcolumn, generateWith_computed_iff ";" ⟨9, 6⟩ "public" [] [] (some model) site column
    (some "price * 2") hcolumn⟩

/-- On a server without computed columns an alteration drops the computation without a word, where a
definition refuses it. -/
theorem generate_computed_of_alteration :
    let g : Generator := ⟨";", .postgres ⟨9, 6⟩ "public"⟩
    let table : ObjectName := { name := "t" }
    let column : Column := { name := "c", storeType := some "integer" }
    let doubled := column.withComputed (some "a * 2")
    let sent (op : Operation) : Option (List String) :=
      (g.generate none [op]).toOption.map (List.map Command.text)
    let altered := some ["ALTER TABLE \"t\" ALTER COLUMN \"c\" TYPE integer;\n" ++
      "ALTER TABLE \"t\" ALTER COLUMN \"c\" SET NOT NULL;\n" ++
      "ALTER TABLE \"t\" ALTER COLUMN \"c\" DROP DEFAULT;\n"]
    sent (.alterColumn table column column) = altered ∧
      sent (.alterColumn table doubled column) = altered ∧
      sent (.addColumn table doubled) = none := by
  decide +kernel

end Generator

end SchemaDdl
