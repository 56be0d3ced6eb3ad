import SchemaDdl.Proofs.Alteration
import SchemaDdl.Proofs.Creation
import SchemaDdl.Proofs.Statement.Batch

/-!
# Where commands begin and end

How many commands an operation is sent as depends on its kind, and for some
kinds on whether it changes anything at all. Every command ends with the
terminator, and the operation alone decides whether it runs outside a
transaction.
-/

namespace SchemaDdl

open Render Statement

namespace Operation

/-- The operation concerns a column of the server or leaves everything as it is. -/
def Idle (defaultSchema : String) : Operation → Prop
  | addColumn _ column => isSystemColumn column.name = true
  | dropColumn _ column => isSystemColumn column = true
  | alterColumn _ column _ => isSystemColumn column.name = true
  | ensureSchema schema => schema = defaultSchema
  | relocate _ r =>
    (∀ n ∈ r.newName, n = r.object.name) ∧ ∀ s ∈ r.newSchema, some s = r.object.schema
  | alterTable _ annotations old =>
    ∃ view oldView, AnnotationView.ofBag annotations = .ok view ∧
      AnnotationView.ofBag old = .ok oldView ∧ view.unlogged = oldView.unlogged ∧
      view.comment = oldView.comment ∧
      ∀ name, view.storage.get? name = oldView.storage.get? name
  | _ => False

def suppressed : Operation → Bool
  | createDatabase _ => true
  | dropDatabase _ => true
  | alterDatabase _ => true
  | sql _ suppressed => suppressed
  | _ => false

/-- How many commands there are; for a database, one for each annotation that asks for an
extension, in the order of the annotations. -/
def SentAs (g : Generator) (defaultSchema : String) (commands : List Command) :
    Operation → Prop
  | dropDatabase _ => commands.length = 3
  | alterDatabase annotations =>
    ∃ extensions, annotations.extensions.mapM (fun entry =>
        Annotation.readExtension entry.1 entry.2) = .ok extensions ∧
      commands.map Command.text = extensions.map fun extension => g.sentence extension.fragments
  | op =>
    (op.Idle defaultSchema → commands = []) ∧ (¬op.Idle defaultSchema → commands.length = 1)

/-- The end of a command. Raw SQL has no terminator but its own. -/
def Ends (g : Generator) (text : String) : Operation → Prop
  | sql raw _ => text = Text.trimmedEnd raw ++ "\n"
  | _ => ∃ body, text = body ++ g.terminator ++ "\n"

/-- The commands are as many as the operation calls for, none of them is blank, and all have its
flag and its end. -/
structure Bounds (op : Operation) (g : Generator) (defaultSchema : String)
    (commands : List Command) : Prop where
  sent : op.SentAs g defaultSchema commands
  flagged : ∀ c ∈ commands, c.suppressed = op.suppressed
  nonblank : ∀ c ∈ commands, Text.isBlank c.text = false
  ends : ∀ c ∈ commands, op.Ends g c.text

def Single : Operation → Prop
  | dropDatabase _ => False
  | alterDatabase _ => False
  | sql _ _ => False
  | _ => True

end Operation

namespace Generator

variable {g : Generator} {version : Version} {schema : String} {model : Option Model}

theorem batched_cases (g : Generator) (statements : List String) :
    (statements = [] ∧ g.batched statements = []) ∨
      (statements ≠ [] ∧ ∃ body, g.batched statements = [⟨body ++ g.terminator ++ "\n", false⟩]) := by
  by_cases h : statements = []
  · exact .inl ⟨h, if_pos h⟩
  · obtain ⟨body, hbody⟩ := exists_lines_eq (g := g) h
    exact .inr ⟨h, body, by rw [batched, if_neg h, hbody]⟩

def SendsAtMostOne (g : Generator) (schema : String) (model : Option Model) (op : Operation) :
    Prop :=
  (op.Idle schema ∧ (g.dispatch op model).commands = []) ∨
    (¬op.Idle schema ∧ ∃ body,
      (g.dispatch op model).commands = [⟨body ++ g.terminator ++ "\n", op.suppressed⟩])

theorem sendsAtMostOne_createTable (hg : g.dialect = .postgres version schema)
    {d : TableDefinition} (hvalid : (Operation.createTable d).Valid)
    (hok : (g.dispatch (.createTable d) model).result = .ok ()) :
    g.SendsAtMostOne schema model (.createTable d) := by
  obtain ⟨view, columns, -, -, -, hsends⟩ := exists_sends_createTable hg hvalid ⟨(), hok⟩
  obtain ⟨body, hbody⟩ := exists_lines_eq (g := g) (List.cons_ne_nil _ _)
  rw [hbody] at hsends
  exact .inr ⟨id, body, hsends.commands_eq⟩

theorem sendsAtMostOne_alterTable (hg : g.dialect = .postgres version schema)
    {table : ObjectName} {annotations old : AnnotationBag}
    (hvalid : (Operation.alterTable table annotations old).Valid)
    (hok : (g.dispatch (.alterTable table annotations old) model).result = .ok ()) :
    g.SendsAtMostOne schema model (.alterTable table annotations old) := by
  have htable := Requirement.valid_of_object hvalid
  obtain ⟨⟨view, hview⟩, oldView, hold⟩ := (succeeds_alterTable hg htable).1 ⟨(), hok⟩
  have hsends := (sends_alterTable hg htable hview hold).commands_eq
  have hidle : (Operation.alterTable table annotations old).Idle schema ↔
      tableChanges table.quoted view oldView = [] := by
    rw [tableChanges_eq_nil_iff]
    constructor
    · rintro ⟨other, oldOther, hother, holdOther, hsame⟩
      obtain rfl := Except.ok.inj (hview.symm.trans hother)
      obtain rfl := Except.ok.inj (hold.symm.trans holdOther)
      exact hsame
    · intro hsame
      exact ⟨view, oldView, hview, hold, hsame⟩
  rcases g.batched_cases (tableChanges table.quoted view oldView) with
    ⟨hnone, hbatched⟩ | ⟨hsome, body, hbatched⟩
  · exact .inl ⟨hidle.2 hnone, hsends.trans hbatched⟩
  · exact .inr ⟨fun h => hsome (hidle.1 h), body, hsends.trans hbatched⟩

theorem sendsAtMostOne_relocate (hg : g.dialect = .postgres version schema) {kind : ObjectKind}
    {r : Relocation} (hvalid : (Operation.relocate kind r).Valid) :
    g.SendsAtMostOne schema model (.relocate kind r) := by
  obtain ⟨hrest, hschema⟩ := List.forall_mem_append.1 hvalid
  obtain ⟨hobject, hname⟩ := List.forall_mem_append.1 hrest
  have hsends := (sends_relocate hg kind (Requirement.valid_of_object hobject)
    (Requirement.valid_of_optional hname) (Requirement.valid_of_optional hschema)).commands_eq
  have hidle : (Operation.relocate kind r).Idle schema ↔ r.statements kind = [] :=
    Relocation.statements_eq_nil_iff.symm
  rcases g.batched_cases (r.statements kind) with ⟨hnone, hbatched⟩ | ⟨hsome, body, hbatched⟩
  · exact .inl ⟨hidle.2 hnone, hsends.trans hbatched⟩
  · exact .inr ⟨fun h => hsome (hidle.1 h), body, hsends.trans hbatched⟩

theorem sendsAtMostOne_alterColumn (hg : g.dialect = .postgres version schema)
    {table : ObjectName} {column old : Column}
    (hvalid : (Operation.alterColumn table column old).Valid)
    (hok : (g.dispatch (.alterColumn table column old) model).result = .ok ()) :
    g.SendsAtMostOne schema model (.alterColumn table column old) := by
  by_cases hsystem : isSystemColumn column.name = true
  · exact .inl ⟨hsystem, commands_alterColumn_of_system g hg table hsystem old model⟩
  · obtain ⟨view, oldView, storeType, -, -, -, hsends⟩ :=
      exists_sends_alterColumn g hg hvalid (eq_false_of_ne_true hsystem) ⟨(), hok⟩
    have hne := Alteration.statements_ne_nil version table column view oldView storeType
      (IdentityStatement.between? oldView.strategy.identity? view.strategy.identity?)
    obtain ⟨body, hbody⟩ := exists_lines_eq (g := g) (mt List.map_eq_nil_iff.1 hne)
    rw [Alteration.lines_eq, hbody] at hsends
    exact .inr ⟨hsystem, body, hsends.commands_eq⟩

theorem sendsAtMostOne_addColumn (hg : g.dialect = .postgres version schema) {table : ObjectName}
    {column : Column} (hok : (g.dispatch (.addColumn table column) model).result = .ok ()) :
    g.SendsAtMostOne schema model (.addColumn table column) := by
  by_cases hsystem : isSystemColumn column.name = true
  · refine .inl ⟨hsystem, ?_⟩
    rw [dispatch, addColumn, hg]
    simp only [hsystem, if_true]
    rfl
  · have hsentence := sentence_addColumn (g := g) (fun _ => eq_false_of_ne_true hsystem) table model
    exact .inr ⟨hsystem, hsentence.exists_commands_eq hok⟩

theorem sendsAtMostOne_dropColumn (hg : g.dialect = .postgres version schema) {table : ObjectName}
    {column : String} (hok : (g.dispatch (.dropColumn table column) model).result = .ok ()) :
    g.SendsAtMostOne schema model (.dropColumn table column) := by
  by_cases hsystem : isSystemColumn column = true
  · refine .inl ⟨hsystem, ?_⟩
    rw [dispatch, dropColumn, if_pos ⟨by simp [hg], hsystem⟩]
    rfl
  · have hsentence := sentence_dropColumn (g := g) (fun _ => eq_false_of_ne_true hsystem) table
    exact .inr ⟨hsystem, hsentence.exists_commands_eq hok⟩

theorem sendsAtMostOne_ensureSchema (hg : g.dialect = .postgres version schema) {name : String}
    (hok : (g.dispatch (.ensureSchema name) model).result = .ok ()) :
    g.SendsAtMostOne schema model (.ensureSchema name) := by
  by_cases hdefault : name = schema
  · refine .inl ⟨hdefault, ?_⟩
    rw [dispatch, ensureSchema, hg]
    simp only [hdefault, if_true]
    rfl
  · rw [dispatch, ensureSchema, hg] at hok
    simp only [if_neg hdefault] at hok
    obtain ⟨body, hbody⟩ := (sentence_createSchema g name).exists_commands_eq hok
    refine .inr ⟨hdefault, body, ?_⟩
    rw [dispatch, ensureSchema, hg]
    simp only [if_neg hdefault]
    exact hbody

theorem sendsAtMostOne_dispatch (hg : g.dialect = .postgres version schema) {op : Operation}
    (hsingle : op.Single) (hvalid : op.Valid) (hok : (g.dispatch op model).result = .ok ()) :
    g.SendsAtMostOne schema model op := by
  cases op with
  | createTable d => exact sendsAtMostOne_createTable hg hvalid hok
  | alterTable table annotations old => exact sendsAtMostOne_alterTable hg hvalid hok
  | alterColumn table column old => exact sendsAtMostOne_alterColumn hg hvalid hok
  | relocate kind r => exact sendsAtMostOne_relocate hg hvalid
  | dropTable table => exact .inr ⟨id, (sentence_dropTable g table).exists_commands_eq hok⟩
  | addColumn table column => exact sendsAtMostOne_addColumn hg hok
  | dropColumn table column => exact sendsAtMostOne_dropColumn hg hok
  | renameColumn table column newName =>
    rw [dispatch, hg] at hok
    obtain ⟨body, hbody⟩ := (sentence_renameColumn g table column newName).exists_commands_eq hok
    refine .inr ⟨id, body, ?_⟩
    rw [dispatch, hg]
    exact hbody
  | createIndex d => exact .inr ⟨id, (sentence_createIndex g d).exists_commands_eq hok⟩
  | dropIndex index table => exact .inr ⟨id, (sentence_dropIndex g index).exists_commands_eq hok⟩
  | ensureSchema name => exact sendsAtMostOne_ensureSchema hg hok
  | dropSchema name => exact .inr ⟨id, (sentence_dropSchema g name).exists_commands_eq hok⟩
  | createDatabase d => exact .inr ⟨id, (sentence_createDatabase g d).exists_commands_eq hok⟩
  | createSequence d => exact .inr ⟨id, (sentence_createSequence g d).exists_commands_eq hok⟩
  | alterSequence sequence options =>
    exact .inr ⟨id, (sentence_alterSequence g sequence options).exists_commands_eq hok⟩
  | restartSequence sequence start =>
    exact .inr ⟨id, (sentence_restartSequence g sequence start).exists_commands_eq hok⟩
  | dropSequence sequence =>
    exact .inr ⟨id, (sentence_dropSequence g sequence).exists_commands_eq hok⟩
  | addPrimaryKey table key =>
    have hsentence := sentence_addConstraint g table (clause_primaryKeyClause key).plain
    exact .inr ⟨id, hsentence.exists_commands_eq hok⟩
  | addForeignKey table key =>
    have hsentence := sentence_addConstraint g table (clause_foreignKeyClause key).plain
    exact .inr ⟨id, hsentence.exists_commands_eq hok⟩
  | addUnique table key =>
    have hsentence := sentence_addConstraint g table (clause_uniqueClause key).plain
    exact .inr ⟨id, hsentence.exists_commands_eq hok⟩
  | dropConstraint kind table constraint =>
    exact .inr ⟨id, (sentence_dropConstraint g table constraint).exists_commands_eq hok⟩
  | dropDatabase name => exact hsingle.elim
  | alterDatabase annotations => exact hsingle.elim
  | sql text suppressed => exact hsingle.elim

theorem commands_eq_nil_of_idle (hg : g.dialect = .postgres version schema) {op : Operation}
    (hsingle : op.Single) (hvalid : op.Valid) (hok : (g.dispatch op model).result = .ok ())
    (hidle : op.Idle schema) : (g.dispatch op model).commands = [] := by
  rcases sendsAtMostOne_dispatch hg hsingle hvalid hok with ⟨-, hnone⟩ | ⟨hbusy, -⟩
  · exact hnone
  · exact absurd hidle hbusy

theorem sends_rawSql {text : String} (h : Text.isBlank text = false) (suppressed : Bool) :
    (rawSql text suppressed).Sends "" [⟨Text.trimmedEnd text ++ "\n", suppressed⟩] := by
  have htrimmed : Text.isBlank (Text.trimmedEnd text ++ "\n") = false :=
    Text.isBlank_append_left (by rwa [Text.isBlank_trimmedEnd]) _
  refine ((writes_append _).then writes_breakLine).sends ?_
  rw [String.empty_append]
  exact sends_close htrimmed suppressed

theorem bounds_single (hg : g.dialect = .postgres version schema) {op : Operation}
    (hsingle : op.Single) (hvalid : op.Valid) (hok : (g.dispatch op model).result = .ok ()) :
    op.Bounds g schema (g.dispatch op model).commands := by
  have hsent (commands : List Command)
      (hcount : (op.Idle schema → commands = []) ∧ (¬op.Idle schema → commands.length = 1)) :
      op.SentAs g schema commands := by
    cases op with
    | dropDatabase name => exact hsingle.elim
    | alterDatabase annotations => exact hsingle.elim
    | _ => exact hcount
  have hends (body : String) : op.Ends g (body ++ g.terminator ++ "\n") := by
    cases op with
    | sql raw suppressed => exact hsingle.elim
    | _ => exact ⟨body, rfl⟩
  have hnonblank := (g.dispatch op model).isBlank_commands
  rcases sendsAtMostOne_dispatch hg hsingle hvalid hok with ⟨hidle, hnone⟩ | ⟨hbusy, body, hone⟩
  · rw [hnone] at hnonblank ⊢
    exact ⟨hsent _ ⟨fun _ => rfl, absurd hidle⟩, by simp, hnonblank, by simp⟩
  · rw [hone] at hnonblank ⊢
    refine ⟨hsent _ ⟨fun hidle => absurd hidle hbusy, fun _ => rfl⟩, ?_, hnonblank, ?_⟩
    · exact List.forall_mem_singleton.2 rfl
    · exact List.forall_mem_singleton.2 (hends body)

theorem bounds_dropDatabase (hg : g.dialect = .postgres version schema) {name : String}
    (hvalid : (Operation.dropDatabase name).Valid) :
    (Operation.dropDatabase name).Bounds g schema
      (g.dispatch (.dropDatabase name) model).commands := by
  have hname := Requirement.valid_of_name (List.forall_mem_singleton.1 hvalid)
  have hnonblank := (g.dispatch (.dropDatabase name) model).isBlank_commands
  have hsends : (g.dispatch (.dropDatabase name) model).commands = _ :=
    (sends_dropDatabase hg hname).commands_eq
  rw [hsends] at hnonblank ⊢
  refine ⟨rfl, by simp [Operation.suppressed], hnonblank, ?_⟩
  simp only [List.forall_mem_cons, List.not_mem_nil, sentence_eq]
  exact ⟨⟨_, rfl⟩, ⟨_, rfl⟩, ⟨_, rfl⟩, fun _ h => h.elim⟩

theorem bounds_alterDatabase (hg : g.dialect = .postgres version schema)
    {annotations : AnnotationBag}
    (hok : (g.dispatch (.alterDatabase annotations) model).result = .ok ()) :
    (Operation.alterDatabase annotations).Bounds g schema
      (g.dispatch (.alterDatabase annotations) model).commands := by
  obtain ⟨view, hview, hextensions⟩ := (succeeds_alterDatabase hg).1 ⟨(), hok⟩
  have hnonblank := (g.dispatch (.alterDatabase annotations) model).isBlank_commands
  have hsends : (g.dispatch (.alterDatabase annotations) model).commands = _ :=
    (sends_alterDatabase hg hview hextensions).commands_eq
  rw [hsends] at hnonblank ⊢
  refine ⟨⟨view.extensions, AnnotationView.extensions_ofBag hview, ?_⟩, ?_, hnonblank, ?_⟩
  · rw [List.map_map]
    rfl
  · exact List.forall_mem_map.2 fun extension _ => rfl
  · exact List.forall_mem_map.2 fun extension _ => ⟨_, sentence_eq g extension.fragments⟩

theorem bounds_sql {text : String} {suppressed : Bool}
    (hvalid : (Operation.sql text suppressed).Valid) :
    (Operation.sql text suppressed).Bounds g schema
      (g.dispatch (.sql text suppressed) model).commands := by
  have htext := Requirement.holds_statement_iff.1 (List.forall_mem_singleton.1 hvalid)
  have hnonblank := (g.dispatch (.sql text suppressed) model).isBlank_commands
  have hsends : (g.dispatch (.sql text suppressed) model).commands = _ :=
    (sends_rawSql htext suppressed).commands_eq
  rw [hsends] at hnonblank ⊢
  exact ⟨⟨False.elim, fun _ => rfl⟩, List.forall_mem_singleton.2 rfl, hnonblank,
    List.forall_mem_singleton.2 rfl⟩

/-- The commands of an operation keep its bounds, whatever types were looked up before. -/
theorem generateWith_bounds (terminator : String) (version : Version) (schema : String)
    (asked : List TypeQuery) (model : Option Model) (op : Operation) {commands : List Command}
    (h : ((⟨terminator, .postgres version schema⟩ : Generator).generateWith (.after asked) model
      [op]).1 = .ok commands) :
    op.Bounds ⟨terminator, .postgres version schema⟩ schema commands := by
  rw [generateWith_eq _ _ _ (Memo.sound_after asked), commandsOfAll_singleton] at h
  obtain ⟨hvalid, hok, rfl⟩ := commandsOf_eq_ok_iff.1 h
  cases op with
  | dropDatabase name => exact bounds_dropDatabase rfl hvalid
  | alterDatabase annotations => exact bounds_alterDatabase rfl hok
  | sql text suppressed => exact bounds_sql hvalid
  | _ => exact bounds_single rfl trivial hvalid hok

/-- Two extensions of a database, with an annotation between them that asks for none. -/
theorem generateWith_bounds_extensions :
    let g : Generator := ⟨";", .postgres ⟨14, 0⟩ "public"⟩
    let op : Operation := .alterDatabase (.ofList [
      ("Postgres:Extension:hstore", .text ",,1.2"),
      ("Postgres:Comment", .text "ours"),
      ("Postgres:Extension:postgis", .text "geo,postgis,")])
    ∃ commands, (g.generateWith (.after []) none [op]).1 = .ok commands ∧
      commands.length = 2 ∧ op.Bounds g "public" commands := by
  intro g op
  have hlength : (g.generateWith (.after []) none [op]).1.toOption.map List.length = some 2 := by
    decide +kernel
  cases h : (g.generateWith (.after []) none [op]).1 with
  | error e =>
    rw [h] at hlength
    cases hlength
  | ok commands =>
    rw [h] at hlength
    have hbounds := generateWith_bounds ";" ⟨14, 0⟩ "public" [] none op h
    exact ⟨commands, rfl, Option.some.inj hlength, hbounds⟩

end Generator

end SchemaDdl
