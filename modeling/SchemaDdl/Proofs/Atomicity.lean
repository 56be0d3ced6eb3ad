import SchemaDdl.Proofs.Script.Rollback
import SchemaDdl.Proofs.Statement.Course

/-!
# Operations are written as a whole or not at all

A valid operation writes nothing before its first words, which are not blank.
So whatever it has written when it fails, commands that it has closed
included, the mark leads back to what the builder held before.
-/

namespace SchemaDdl.Script

theorem rollback?_write (script : Script) (g : Generator) (model : Option Model) {op : Operation}
    (hop : op.Valid) :
    (script.write (g.dispatch op model)).2.builder.rollback? script.builder.mark = some
      { script.builder with atLineStart := Builder.startsLine script.builder.pending } := by
  rw [write]
  rcases (g.moves_dispatch model hop).edits_eq script.memo with h | ⟨text, es, h, hblank⟩
  · rw [h, Builder.run_nil, Builder.rollback?_mark]
  · rw [h, Builder.run_cons]
    exact Builder.rollback?_run script.builder hblank es

/-- An operation that fails leaves the commands, the pending text and the depth as they were. -/
theorem compile_error_restores (script : Script) (g : Generator) (model : Option Model)
    (op : Operation) {e : DdlError} {after : Script}
    (h : script.compile g model op = (.error e, after)) :
    after.builder.commands = script.builder.commands ∧
      after.builder.pending = script.builder.pending ∧
      after.builder.depth = script.builder.depth := by
  rw [compile] at h
  split at h
  · cases h
    exact ⟨rfl, rfl, rfl⟩
  · next hvalid =>
    have hback := rollback?_write script g model (Operation.validate_eq_ok_iff.1 hvalid)
    split at h
    · cases h
    · next written hwrite =>
      rw [hwrite] at hback
      simp only [hback, Option.getD_some, Prod.mk.injEq] at h
      obtain ⟨-, rfl⟩ := h
      exact ⟨rfl, rfl, rfl⟩

/-- The first of two extensions is closed as a command before the second turns out to have no
name. -/
theorem compile_error_restores_extensions :
    let script : Script := { builder := { pending := "SELECT 1", depth := 1 } }
    let bag : AnnotationBag :=
      .ofList [("Postgres:Extension:hstore", .null), ("Postgres:Extension:", .null)]
    ∃ e after, script.compile .standard none (.alterDatabase bag) = (.error e, after) ∧
      after.builder.commands = [] ∧ after.builder.pending = "SELECT 1" ∧
      after.builder.depth = 1 := by
  intro script bag
  have hfails : (script.compile .standard none (.alterDatabase bag)).1.isOk = false := by
    decide +kernel
  cases h : script.compile .standard none (.alterDatabase bag) with
  | mk result after =>
    rw [h] at hfails
    cases result with
    | ok => cases hfails
    | error e => exact ⟨e, after, rfl, compile_error_restores script _ _ _ h⟩

end SchemaDdl.Script
