import SchemaDdl.Proofs.Script.Commands
import SchemaDdl.Proofs.Statement.Course

/-!
# Migrations one after the other

A successful operation leaves nothing but closed commands behind, and what
closes them does not look at the commands before. So each operation has
commands of its own, and those of a list of operations stand in its order.
-/

namespace SchemaDdl

namespace Generator

def commandsOf (g : Generator) (model : Option Model) (op : Operation) : Result (List Command) := do
  op.validate
  (g.dispatch op model).result
  pure (g.dispatch op model).commands

def commandsOfAll (g : Generator) (model : Option Model) : List Operation → Result (List Command)
  | [] => pure []
  | op :: ops => do
    let first ← g.commandsOf model op
    let rest ← g.commandsOfAll model ops
    pure (first ++ rest)

end Generator

namespace Script

/-- The expected commands were added to earlier ones and nothing else was left behind, or the
expected error was found. -/
def Adds (earlier : List Command) (given : Result Unit × Script) :
    Result (List Command) → Prop
  | .ok added =>
    ∃ memo : Memo, memo.Sound ∧ given = (.ok (), ⟨{ commands := earlier ++ added }, memo⟩)
  | .error e => given.1 = .error e

theorem adds_compile (g : Generator) (model : Option Model) (op : Operation)
    (earlier : List Command) {memo : Memo} (h : memo.Sound) :
    Adds earlier (compile ⟨{ commands := earlier }, memo⟩ g model op) (g.commandsOf model op) := by
  obtain ⟨hedits, hresult, hsound⟩ := (g.dispatch op model).run_eq h
  rw [compile, Generator.commandsOf]
  cases hvalid : op.validate with
  | error e => rfl
  | ok =>
    have hmoves := g.moves_dispatch model (Operation.validate_eq_ok_iff.1 hvalid)
    simp only [write, hresult, hedits]
    cases hok : (g.dispatch op model).result with
    | error e => rfl
    | ok =>
      rw [Render.run_edits_idle hmoves hok]
      exact ⟨_, hsound, rfl⟩

/-- Whether an operation compiles, and with which error it does not, has nothing to do with what
stands in the builder. -/
theorem result_compile (script : Script) (hmemo : script.memo.Sound) (g : Generator)
    (model : Option Model) (op : Operation) :
    (script.compile g model op).1 = (g.commandsOf model op).map fun _ => () := by
  obtain ⟨-, hresult, -⟩ := (g.dispatch op model).run_eq hmemo
  rw [compile, Generator.commandsOf]
  cases hvalid : op.validate with
  | error e => rfl
  | ok =>
    simp only [write, hresult]
    cases (g.dispatch op model).result <;> rfl

theorem adds_compileAll (g : Generator) (model : Option Model) (ops : List Operation)
    (earlier : List Command) {memo : Memo} (h : memo.Sound) :
    Adds earlier (compileAll ⟨{ commands := earlier }, memo⟩ g model ops)
      (g.commandsOfAll model ops) := by
  -- The commands of each operation join the earlier ones, and the memo that it leaves is sound.
  induction ops generalizing earlier memo with
  | nil => exact ⟨memo, h, by rw [compileAll, List.append_nil]⟩
  | cons op ops ih =>
    have hfirst := adds_compile g model op earlier h
    rw [compileAll, Generator.commandsOfAll]
    cases hop : g.commandsOf model op with
    | error e =>
      rw [hop] at hfirst
      split
      · next hcompile =>
        rw [hcompile] at hfirst
        cases hfirst
      · next hcompile =>
        rw [hcompile] at hfirst
        exact hfirst
    | ok first =>
      rw [hop] at hfirst
      obtain ⟨later, hlater, hcompile⟩ := hfirst
      have hrest := ih (earlier ++ first) hlater
      rw [hcompile]
      cases hops : g.commandsOfAll model ops with
      | error e =>
        rw [hops] at hrest
        exact hrest
      | ok rest =>
        rw [hops] at hrest
        obtain ⟨last, hlast, heq⟩ := hrest
        exact ⟨last, hlast, heq.trans (by rw [List.append_assoc])⟩

end Script

namespace Generator

/-- A sound memo gives every operation its own commands, whatever came before it. -/
theorem generateWith_eq (g : Generator) (model : Option Model) (ops : List Operation)
    {memo : Memo} (h : memo.Sound) :
    (g.generateWith memo model ops).1 = g.commandsOfAll model ops := by
  have hadds := Script.adds_compileAll g model ops [] h
  rw [generateWith]
  cases hall : g.commandsOfAll model ops with
  | error e =>
    rw [hall] at hadds
    split
    · next hcompile =>
      rw [hcompile] at hadds
      cases hadds
    · next hcompile =>
      rw [hcompile] at hadds
      cases hadds
      rfl
  | ok commands =>
    rw [hall] at hadds
    obtain ⟨later, -, hcompile⟩ := hadds
    rw [hcompile, List.nil_append]
    rfl

theorem commandsOfAll_append (g : Generator) (model : Option Model) (ops more : List Operation) :
    g.commandsOfAll model (ops ++ more) = (do
      let first ← g.commandsOfAll model ops
      let rest ← g.commandsOfAll model more
      pure (first ++ rest)) := by
  induction ops with
  | nil =>
    rw [List.nil_append]
    exact (bind_pure _).symm
  | cons op ops ih =>
    rw [List.cons_append, commandsOfAll, commandsOfAll, ih]
    simp only [bind_assoc, pure_bind, List.append_assoc]

theorem commandsOfAll_singleton (g : Generator) (model : Option Model) (op : Operation) :
    g.commandsOfAll model [op] = g.commandsOf model op := by
  rw [commandsOfAll, commandsOfAll]
  simp

theorem generateWith_eq_of_sends {g : Generator} {model : Option Model} {op : Operation}
    {commands : List Command} {memo : Memo} (hmemo : memo.Sound) (hvalid : op.validate = .ok ())
    (h : (g.dispatch op model).Sends "" commands) :
    (g.generateWith memo model [op]).1 = .ok commands := by
  rw [generateWith_eq g model [op] hmemo, commandsOfAll_singleton, commandsOf, hvalid,
    h.commands_eq, h.1]
  rfl

theorem generate_eq_of_sends {g : Generator} {model : Option Model} {op : Operation}
    {commands : List Command} (hvalid : op.validate = .ok ())
    (h : (g.dispatch op model).Sends "" commands) : g.generate model [op] = .ok commands :=
  generateWith_eq_of_sends Memo.sound_empty hvalid h

theorem commandsOf_eq_ok_iff {g : Generator} {model : Option Model} {op : Operation}
    {commands : List Command} :
    g.commandsOf model op = .ok commands ↔
      op.Valid ∧ (g.dispatch op model).result = .ok () ∧
        (g.dispatch op model).commands = commands := by
  rw [commandsOf, Result.then_eq_ok_iff, Result.then_eq_ok_iff, Result.pure_eq_ok_iff,
    Operation.validate_eq_ok_iff]
  exact and_congr_right fun _ => and_congr_right fun _ => eq_comm

theorem commandsOfAll_eq_mapM (g : Generator) (model : Option Model) (ops : List Operation) :
    g.commandsOfAll model ops = (ops.mapM (g.commandsOf model)).map List.flatten := by
  induction ops with
  | nil => rfl
  | cons op ops ih =>
    rw [commandsOfAll, ih, List.mapM_cons]
    cases g.commandsOf model op with
    | error e => rfl
    | ok first => cases ops.mapM (g.commandsOf model) <;> rfl

/-- Two lists of operations give the commands of the first and then those of the second, or the
first error; so every list gives those of its single operations. The memos may hold whatever
earlier questions have left in them. -/
theorem generateWith_append (g : Generator) (model : Option Model) (ops more : List Operation)
    (asked askedFirst askedThen : List TypeQuery) :
    (g.generateWith (.after asked) model (ops ++ more)).1 = (do
      let first ← (g.generateWith (.after askedFirst) model ops).1
      let rest ← (g.generateWith (.after askedThen) model more).1
      pure (first ++ rest)) ∧
    (g.generateWith (.after asked) model ops).1 =
      (ops.mapM fun op => (g.generateWith (.after askedFirst) model [op]).1).map
        List.flatten := by
  simp only [generateWith_eq g model _ (Memo.sound_after _), commandsOfAll_singleton]
  exact ⟨commandsOfAll_append g model ops more, commandsOfAll_eq_mapM g model ops⟩

end Generator

end SchemaDdl
