import SchemaDdl.Proofs.Names
import SchemaDdl.Proofs.Script.Rendering

/-!
# When a rendering succeeds

Only names that cannot be written, questions without an answer and refusals
make a rendering fail. Writing never does.
-/

namespace SchemaDdl.Render

variable {α β : Type}

def Succeeds (r : Render α) : Prop := ∃ a, r.result = .ok a

theorem succeeds_iff {r : Render Unit} : r.Succeeds ↔ r.result = .ok () :=
  ⟨fun ⟨_, h⟩ => h, fun h => ⟨(), h⟩⟩

theorem succeeds_bind_iff {r : Render α} {f : α → Render β} :
    (r >>= f).Succeeds ↔ ∃ a, r.result = .ok a ∧ (f a).Succeeds := by
  simp only [Succeeds, result_bind, Result.bind_eq_ok_iff]
  exact exists_comm.trans (exists_congr fun _ => exists_and_left)

@[simp] theorem succeeds_then {r : Render Unit} {f : Unit → Render β} :
    (r >>= f).Succeeds ↔ r.Succeeds ∧ (f ()).Succeeds := by
  rw [succeeds_bind_iff, succeeds_iff]
  exact ⟨fun ⟨_, h⟩ => h, fun h => ⟨(), h⟩⟩

/-- It does not matter what the first part gives if what follows fails with all of it or with
none. -/
theorem succeeds_bind_const {r : Render α} {f : α → Render β} {p : Prop}
    (h : ∀ a, (f a).Succeeds ↔ p) : (r >>= f).Succeeds ↔ r.Succeeds ∧ p := by
  rw [succeeds_bind_iff]
  simp only [h, exists_and_right]
  rfl

@[simp] theorem succeeds_pure (a : α) : (pure a : Render α).Succeeds := ⟨a, rfl⟩

@[simp] theorem succeeds_append (text : String) : (append text).Succeeds := ⟨(), rfl⟩

@[simp] theorem succeeds_appendLine (text : String) : (appendLine text).Succeeds := ⟨(), rfl⟩

@[simp] theorem succeeds_breakLine : breakLine.Succeeds := ⟨(), rfl⟩

@[simp] theorem succeeds_indent : indent.Succeeds := ⟨(), rfl⟩

@[simp] theorem succeeds_dedent : dedent.Succeeds := ⟨(), rfl⟩

@[simp] theorem succeeds_close (suppressed : Bool) : (close suppressed).Succeeds := ⟨(), rfl⟩

theorem succeeds_ofResult_bind {result : Result α} {f : α → Render β} :
    (ofResult result >>= f).Succeeds ↔ ∃ a, result = .ok a ∧ (f a).Succeeds :=
  succeeds_bind_iff

theorem succeeds_ofResult {result : Result Unit} :
    (ofResult result).Succeeds ↔ result = .ok () := succeeds_iff

theorem succeeds_require {q : TypeQuery} :
    (require q).Succeeds ↔ ∃ d, q.resolve = some d := by
  change (∃ d, q.required q.resolve = .ok d) ↔ _
  cases q.resolve with
  | none => simp [TypeQuery.required]
  | some d => simp [TypeQuery.required]

@[simp] theorem succeeds_appendName {object : ObjectName} :
    (appendName object).Succeeds ↔ object.Valid := by
  simp [appendName, succeeds_ofResult_bind, ObjectName.exists_delimit_iff]

@[simp] theorem succeeds_onlyIf {condition : Prop} [Decidable condition] {part : Render Unit} :
    (onlyIf condition part).Succeeds ↔ (condition → part.Succeeds) := by
  rw [onlyIf]
  split
  · next h => simp [h]
  · next h => simp [h]

@[simp] theorem succeeds_optionally {about : Option α} {part : α → Render Unit} :
    (optionally about part).Succeeds ↔ ∀ a ∈ about, (part a).Succeeds := by
  cases about with
  | none => simp [optionally]
  | some a => simp [optionally]

@[simp] theorem succeeds_commaLines {parts : List (Render Unit)} :
    (commaLines parts).Succeeds ↔ ∀ part ∈ parts, part.Succeeds := by
  induction parts with
  | nil => simp [commaLines]
  | cons part parts ih =>
    cases parts with
    | nil => simp [commaLines]
    | cons next rest =>
      rw [commaLines]
      simp [ih]
      simp

@[simp] theorem succeeds_forM {items : List α} {part : α → Render Unit} :
    (forM items part : Render Unit).Succeeds ↔ ∀ item ∈ items, (part item).Succeeds := by
  induction items with
  | nil => simp
  | cons item items ih => simp [ih]

end SchemaDdl.Render
