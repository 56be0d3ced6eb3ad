import SchemaDdl.Proofs.Composition
import SchemaDdl.Proofs.Quoting.Reading
import SchemaDdl.Proofs.Statement.Batch

/-!
# Renaming and moving an object

An object is renamed where it is and then moved. Each statement addresses it by
the name that it has at that point, so carrying them out one after the other
leads from the place where it starts to the one where it is wanted.
-/

namespace SchemaDdl

open Render Sql Sql.Fragment

/-- Where the object is wanted: under the new name and in the new schema, as far as these are
given. -/
def Relocation.target (r : Relocation) : ObjectName :=
  ⟨r.newSchema.or r.object.schema, r.newName.getD r.object.name⟩

inductive RelocationStep where
  | rename (object : ObjectName) (newName : String)
  | move (object : ObjectName) (newSchema : String)
  deriving DecidableEq, Repr

namespace RelocationStep

def IsRename : RelocationStep → Prop
  | rename _ _ => True
  | move _ _ => False

def IsMove : RelocationStep → Prop
  | rename _ _ => False
  | move _ _ => True

/-- Where an object is after the statement, which must address it by the name that it has. -/
def replay (current : ObjectName) : RelocationStep → Option ObjectName
  | rename object newName => if object = current then some ⟨current.schema, newName⟩ else none
  | move object newSchema => if object = current then some ⟨some newSchema, current.name⟩ else none

def read? (kind : ObjectKind) (statement : String) : Option RelocationStep := do
  let read ← lex? statement
  let read ← skip? ("ALTER " ++ kind.sql ++ " ") read
  let (object, read) ← object? read
  match skip? " RENAME TO " read, skip? " SET SCHEMA " read with
  | some [.quoted .identifier newName], _ => some (rename object newName)
  | _, some [.quoted .identifier newSchema] => some (move object newSchema)
  | _, _ => none

def fragments (kind : ObjectKind) : RelocationStep → List Fragment
  | rename object newName =>
    words ("ALTER " ++ kind.sql ++ " ") ::
      (object.fragments ++ [words " RENAME TO ", identifier newName])
  | move object newSchema =>
    words ("ALTER " ++ kind.sql ++ " ") ::
      (object.fragments ++ [words " SET SCHEMA ", identifier newSchema])

theorem parted_fragments (kind : ObjectKind) (step : RelocationStep) :
    Parted (step.fragments kind) := by
  have hkind : "ALTER " ++ kind.sql ++ " " ≠ "" ∧ Unquoted ("ALTER " ++ kind.sql ++ " ") := by
    cases kind <;> decide
  cases step with
  | rename object newName =>
    exact .words hkind (object.parted_fragments.append (.words (by decide) (.last _ _)))
  | move object newSchema =>
    exact .words hkind (object.parted_fragments.append (.words (by decide) (.last _ _)))

theorem read?_render (kind : ObjectKind) (step : RelocationStep) :
    read? kind (render (step.fragments kind)) = some step := by
  rw [read?, (step.parted_fragments kind).lex?_render]
  cases step with
  | rename object newName =>
    have hends := endsName_words (s := " RENAME TO ") (by decide) [identifier newName]
    simp only [fragments, skip?_words, object?_fragments object hends, Option.bind_eq_bind,
      Option.bind_some]
    rfl
  | move object newSchema =>
    have hends := endsName_words (s := " SET SCHEMA ") (by decide) [identifier newSchema]
    have hother := skip?_other (s := " RENAME TO ") (t := " SET SCHEMA ") (by decide)
      [identifier newSchema]
    simp only [fragments, skip?_words, object?_fragments object hends, hother,
      Option.bind_eq_bind, Option.bind_some]
    rfl

theorem mapM_read?_render (kind : ObjectKind) (steps : List RelocationStep) :
    (steps.map fun step => render (step.fragments kind)).mapM (read? kind) = some steps := by
  induction steps with
  | nil => rfl
  | cons step steps ih =>
    rw [List.map_cons, List.mapM_cons, read?_render, ih]
    rfl

end RelocationStep

namespace Relocation

/-- The statements that move an object, as far as the new name and the new schema are other ones. -/
def steps (r : Relocation) : List RelocationStep :=
  (r.otherName?.map (.rename r.object)).toList ++
    (r.otherSchema?.map (.move ⟨r.object.schema, r.otherName?.getD r.object.name⟩)).toList

variable (r : Relocation)

theorem map_render_steps (kind : ObjectKind) :
    (r.steps.map fun step => render (step.fragments kind)) = r.statements kind := by
  rw [steps, statements]
  cases r.otherName? <;> cases r.otherSchema? <;>
    simp [RelocationStep.fragments, render_cons, render_append, ObjectName.render_fragments,
      String.append_assoc]

theorem getD_otherName? : r.otherName?.getD r.object.name = r.newName.getD r.object.name := by
  rw [otherName?]
  cases r.newName with
  | none => rfl
  | some n => by_cases h : n = r.object.name <;> simp [Option.filter, h]

theorem or_otherSchema? : r.otherSchema?.or r.object.schema = r.newSchema.or r.object.schema := by
  rw [otherSchema?]
  cases r.newSchema with
  | none => rfl
  | some s => by_cases h : some s = r.object.schema <;> simp [Option.filter, h]

/-- Each statement finds the object where the one before it has left it. -/
theorem replay_steps : r.steps.foldlM RelocationStep.replay r.object = some r.target := by
  rw [target, ← or_otherSchema?, ← getD_otherName?, steps]
  cases r.otherName? <;> cases r.otherSchema? <;> simp [RelocationStep.replay]

theorem pairwise_steps :
    r.steps.Pairwise fun first next => first.IsRename ∧ next.IsMove := by
  rw [steps]
  cases r.otherName? <;> cases r.otherSchema? <;>
    simp [RelocationStep.IsRename, RelocationStep.IsMove]

theorem target_eq_object_iff (kind : ObjectKind) :
    r.target = r.object ↔ r.statements kind = [] := by
  rw [statements_eq_nil_iff, target]
  obtain ⟨⟨schema, name⟩, newName, newSchema⟩ := r
  cases newName <;> cases newSchema <;> simp [and_comm]

end Relocation

namespace Generator

/-- A valid relocation sends its statements as one command. They are read as steps of which each
addresses the object where it is at that point, and which leave it where it is wanted; of two steps
the first renames it and the second moves it. There is no command just if it is there already. -/
theorem generateWith_relocate (terminator : String) (version : Version) (schema : String)
    (asked : List TypeQuery) (model : Option Model) (kind : ObjectKind) (r : Relocation)
    (hvalid : (Operation.relocate kind r).validate = .ok ()) :
    let g : Generator := ⟨terminator, .postgres version schema⟩
    ∃ statements steps,
      (g.generateWith (.after asked) model [.relocate kind r]).1 = .ok (g.batched statements) ∧
        statements.mapM (RelocationStep.read? kind) = some steps ∧
        steps.foldlM RelocationStep.replay r.object = some r.target ∧
        steps.Pairwise (fun first next => first.IsRename ∧ next.IsMove) ∧
        (g.batched statements = [] ↔ r.target = r.object) := by
  intro g
  have hg : g.dialect = .postgres version schema := rfl
  obtain ⟨hnamed, hschema⟩ := List.forall_mem_append.1 (Operation.validate_eq_ok_iff.1 hvalid)
  obtain ⟨hobject, hname⟩ := List.forall_mem_append.1 hnamed
  have hsends := Statement.sends_relocate hg kind (Requirement.valid_of_object hobject)
    (Requirement.valid_of_optional hname) (Requirement.valid_of_optional hschema)
  have hread := RelocationStep.mapM_read?_render kind r.steps
  rw [r.map_render_steps kind] at hread
  refine ⟨r.statements kind, r.steps,
    generateWith_eq_of_sends (Memo.sound_after asked) hvalid hsends, hread, r.replay_steps,
    r.pairwise_steps, ?_⟩
  rw [r.target_eq_object_iff kind, batched]
  split
  · next hempty => simp [hempty]
  · next hne => simp [hne]

/-- An index whose names hold quotes, points and the words of a statement. -/
theorem generateWith_relocate_index :
    let g : Generator := ⟨";", .postgres ⟨12, 0⟩ "public"⟩
    let r : Relocation := {
      object := ⟨some "a\".\"b", "i\" RENAME TO \"j"⟩
      newName := some "k.l"
      newSchema := some "it's" }
    (Operation.relocate .index r).validate = .ok () ∧ r.target = ⟨some "it's", "k.l"⟩ ∧
      ∃ statements steps,
        (g.generateWith (.after []) none [.relocate .index r]).1 = .ok (g.batched statements) ∧
          statements.mapM (RelocationStep.read? .index) = some steps ∧
          steps.foldlM RelocationStep.replay r.object = some r.target ∧
          steps.Pairwise (fun first next => first.IsRename ∧ next.IsMove) ∧
          (g.batched statements = [] ↔ r.target = r.object) := by
  intro g r
  have hvalid : (Operation.relocate .index r).validate = .ok () :=
    Operation.validate_eq_ok_iff.2 (by decide)
  exact ⟨hvalid, rfl, generateWith_relocate ";" ⟨12, 0⟩ "public" [] none .index r hvalid⟩

end Generator

end SchemaDdl
