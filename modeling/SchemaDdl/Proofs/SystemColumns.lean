import SchemaDdl.Proofs.Boundaries

/-!
# Columns of the server

The server adds some columns to every table. Leaving them out of a migration
does not change what is sent: operations on them alone may go, and a new table
is the same without them.
-/

namespace SchemaDdl

open Render Statement

namespace Operation

/-- What is left of an operation without the columns of the server, if anything is. -/
def withoutSystemColumns : Operation → Option Operation
  | createTable d =>
    some (createTable { d with columns := TableDefinition.userColumns d.columns })
  | addColumn table column =>
    if isSystemColumn column.name then none else some (addColumn table column)
  | dropColumn table column =>
    if isSystemColumn column then none else some (dropColumn table column)
  | alterColumn table column old =>
    if isSystemColumn column.name then none else some (alterColumn table column old)
  | op => some op

theorem Valid.userColumns {d : TableDefinition} (h : (createTable d).Valid) :
    (createTable { d with columns := TableDefinition.userColumns d.columns }).Valid := by
  simp only [Valid, requirements, List.forall_mem_append, List.forall_mem_map] at h ⊢
  obtain ⟨⟨⟨⟨hobject, hcolumns⟩, hprimary⟩, hunique⟩, hforeign⟩ := h
  refine ⟨⟨⟨⟨hobject, fun column hcolumn => ?_⟩, hprimary⟩, hunique⟩, hforeign⟩
  exact hcolumns column (List.mem_filter.1 hcolumn).1

end Operation

namespace Generator

variable {g : Generator} {version : Version} {schema : String} {model : Option Model}

theorem dispatch_userColumns (hg : g.dialect = .postgres version schema) (d : TableDefinition) :
    g.dispatch (.createTable { d with columns := TableDefinition.userColumns d.columns }) model =
      g.dispatch (.createTable d) model := by
  have hidempotent : TableDefinition.userColumns (TableDefinition.userColumns d.columns) =
      TableDefinition.userColumns d.columns := by
    simp [TableDefinition.userColumns]
  simp only [dispatch, createTable, hg, createPostgresTable, hidempotent]

/-- An operation sends nothing if nothing is left of it, and otherwise what is left sends the
same. -/
theorem commandsOf_withoutSystemColumns (hg : g.dialect = .postgres version schema)
    {op : Operation} {commands : List Command} (h : g.commandsOf model op = .ok commands) :
    (op.withoutSystemColumns = none ∧ commands = []) ∨
      ∃ left, op.withoutSystemColumns = some left ∧ g.commandsOf model left = .ok commands := by
  obtain ⟨hvalid, hok, hcommands⟩ := commandsOf_eq_ok_iff.1 h
  have hidle (hsingle : op.Single) (hidle : op.Idle schema) : commands = [] := by
    rw [← hcommands]
    exact commands_eq_nil_of_idle hg hsingle hvalid hok hidle
  cases op with
  | createTable d =>
    refine .inr ⟨_, rfl, commandsOf_eq_ok_iff.2 ⟨hvalid.userColumns, ?_⟩⟩
    rw [dispatch_userColumns hg]
    exact ⟨hok, hcommands⟩
  | addColumn table column =>
    by_cases hsystem : isSystemColumn column.name = true
    · exact .inl ⟨if_pos hsystem, hidle trivial hsystem⟩
    · exact .inr ⟨_, if_neg hsystem, h⟩
  | dropColumn table column =>
    by_cases hsystem : isSystemColumn column = true
    · exact .inl ⟨if_pos hsystem, hidle trivial hsystem⟩
    · exact .inr ⟨_, if_neg hsystem, h⟩
  | alterColumn table column old =>
    by_cases hsystem : isSystemColumn column.name = true
    · exact .inl ⟨if_pos hsystem, hidle trivial hsystem⟩
    · exact .inr ⟨_, if_neg hsystem, h⟩
  | _ => exact .inr ⟨_, rfl, h⟩

/-- By induction on the operations, since each of them has commands of its own. -/
theorem commandsOfAll_withoutSystemColumns (hg : g.dialect = .postgres version schema)
    {ops : List Operation} {commands : List Command}
    (h : g.commandsOfAll model ops = .ok commands) :
    g.commandsOfAll model (ops.filterMap Operation.withoutSystemColumns) = .ok commands := by
  induction ops generalizing commands with
  | nil => exact h
  | cons op ops ih =>
    rw [commandsOfAll] at h
    obtain ⟨first, hfirst, hothers⟩ := Result.bind_eq_ok_iff.1 h
    obtain ⟨rest, hrest, hcommands⟩ := Result.bind_eq_ok_iff.1 hothers
    obtain rfl := Result.pure_eq_ok_iff.1 hcommands
    rcases commandsOf_withoutSystemColumns hg hfirst with ⟨hnone, rfl⟩ | ⟨left, hsome, hleft⟩
    · rw [List.filterMap_cons_none hnone]
      exact ih hrest
    · rw [List.filterMap_cons_some hsome, commandsOfAll, hleft, ih hrest]
      rfl

/-- A migration that succeeds sends the same commands without the columns of the server. -/
theorem generateWith_withoutSystemColumns (terminator : String) (version : Version)
    (schema : String) (asked askedThen : List TypeQuery) (model : Option Model)
    (ops : List Operation) {commands : List Command}
    (h : ((⟨terminator, .postgres version schema⟩ : Generator).generateWith (.after asked) model
      ops).1 = .ok commands) :
    ((⟨terminator, .postgres version schema⟩ : Generator).generateWith (.after askedThen) model
      (ops.filterMap Operation.withoutSystemColumns)).1 = .ok commands := by
  rw [generateWith_eq _ _ _ (Memo.sound_after _)] at h ⊢
  exact commandsOfAll_withoutSystemColumns rfl h

/-- A table with a column of the server, and two operations on such columns. -/
theorem generateWith_withoutSystemColumns_table :
    let g : Generator := ⟨";", .postgres ⟨14, 0⟩ "public"⟩
    let id : Column := { name := "id", storeType := some "integer" }
    let d : TableDefinition := {
      table := { name := "t" }
      columns := [{ name := "xmin" }, id]
      primaryKey := some { columns := ["id"] } }
    let ops : List Operation := [.createTable d, .dropColumn d.table "ctid",
      .alterColumn d.table { name := "oid" } {}, .dropColumn d.table "id"]
    let left : List Operation :=
      [.createTable { d with columns := [id] }, .dropColumn d.table "id"]
    ∃ commands, (g.generateWith (.after []) none ops).1 = .ok commands ∧ commands.length = 2 ∧
      ops.filterMap Operation.withoutSystemColumns = left ∧
      (g.generateWith (.after []) none left).1 = .ok commands := by
  intro g id d ops left
  have hlength : (g.generateWith (.after []) none ops).1.toOption.map List.length = some 2 := by
    decide +kernel
  have hleft : ops.filterMap Operation.withoutSystemColumns = left := rfl
  cases h : (g.generateWith (.after []) none ops).1 with
  | error e =>
    rw [h] at hlength
    cases hlength
  | ok commands =>
    rw [h] at hlength
    have hsame := generateWith_withoutSystemColumns ";" ⟨14, 0⟩ "public" [] [] none ops h
    rw [hleft] at hsame
    exact ⟨commands, rfl, Option.some.inj hlength, hleft, hsame⟩

end Generator

end SchemaDdl
