import SchemaDdl.Proofs.Alteration
import SchemaDdl.Proofs.StoreType.Shape

/-!
# Where the type of a column comes from

A column names its type itself, or the model does, or the type is the one its
logical type is stored as. A name that the column gives counts only if it says
something, and no logical type is stored under a blank name. What the model
says is taken as it is.
-/

namespace SchemaDdl

/-! ## Names of types that are found -/

theorem Builtin.isBlank_name {b : Builtin} (hb : b ∈ all) : Text.isBlank b.name = false := by
  obtain ⟨-, htrimmed, hne⟩ := names_all b hb b.name List.mem_cons_self
  obtain ⟨c, cs, hchars⟩ := List.exists_cons_of_ne_nil hne
  have hfirst : Text.isSpace c = false := htrimmed.1 c (by rw [hchars]; rfl)
  have hblank := Text.isBlank_ofList_cons hfirst cs
  rwa [← hchars, String.ofList_toList] at hblank

namespace Descriptor

theorem Standard.isBlank_storeType {d : Descriptor} (h : d.Standard) :
    Text.isBlank d.storeType = false := by
  obtain ⟨b, hb, hbase⟩ := h.base
  have hname : Text.isBlank d.baseName = false := by
    rw [hbase]
    exact Builtin.isBlank_name hb
  rw [h.storeType]
  cases d.size? with
  | none => exact hname
  | some size => exact Text.isBlank_append_left (Text.isBlank_append_left
      (Text.isBlank_append_left hname _) _) _

theorem Shaped.isBlank_storeType {d : Descriptor} (h : d.Shaped) :
    Text.isBlank d.storeType = false := by
  cases h with
  | standard h => exact h.isBlank_storeType
  | array harray hsize helement h hname =>
    rw [hname]
    exact Text.isBlank_append_left h.isBlank_storeType _

end Descriptor

/-! ## Types of columns -/

namespace Column

/-- Only the model can give a column a type without a name, and only if the column itself does not
name one. -/
theorem isBlank_resolvedType?_iff {column : Column} {table : ObjectName} {model : Option Model} :
    (∃ storeType, column.resolvedType? table model = some storeType ∧
        Text.isBlank storeType = true) ↔
      (∀ named ∈ column.storeType, Text.isBlank named = true) ∧
        ∃ m ∈ model, ∃ modelled ∈ m.storeType? table.schema table.name column.name,
          Text.isBlank modelled = true := by
  have hnone : column.storeType.filter (fun t => !Text.isBlank t) = none ↔
      ∀ named ∈ column.storeType, Text.isBlank named = true := by
    simp [Option.filter_eq_none_iff]
  constructor
  · rintro ⟨storeType, h, hblank⟩
    rcases Option.or_eq_some_iff.1 h with hnamed | ⟨hunnamed, hrest⟩
    · -- A name that counts is not blank.
      have hkept := (Option.filter_eq_some_iff.1 hnamed).2
      rw [hblank] at hkept
      cases hkept
    · refine ⟨hnone.1 hunnamed, ?_⟩
      rcases Option.or_eq_some_iff.1 hrest with hmodelled | ⟨-, hlogical⟩
      · obtain ⟨m, hm, hstoreType⟩ := Option.bind_eq_some_iff.1 hmodelled
        exact ⟨m, hm, storeType, hstoreType, hblank⟩
      · obtain ⟨logical, -, hstored⟩ := Option.bind_eq_some_iff.1 hlogical
        obtain ⟨d, hd, rfl⟩ := Option.map_eq_some_iff.1 hstored
        have hname := (TypeQuery.shaped_of_resolve hd).isBlank_storeType
        rw [hblank] at hname
        cases hname
  · rintro ⟨hunnamed, m, hm, modelled, hmodelled, hblank⟩
    have hbind : (model.bind fun m => m.storeType? table.schema table.name column.name) =
        some modelled := Option.bind_eq_some_iff.2 ⟨m, hm, hmodelled⟩
    refine ⟨modelled, ?_, hblank⟩
    rw [resolvedType?, hnone.2 hunnamed, hbind]
    rfl

end Column

namespace Statement

/-- A column gets a blank type exactly if it does not name one and the model gives it a blank one,
whatever types were looked up before. -/
theorem columnType_blank_iff (asked : List TypeQuery) (table : ObjectName) (column : Column)
    (model : Option Model) :
    (∃ storeType, ((columnType table column model) (.after asked)).result = .ok storeType ∧
        Text.isBlank storeType = true) ↔
      (∀ named ∈ column.storeType, Text.isBlank named = true) ∧
        ∃ m ∈ model, ∃ modelled ∈ m.storeType? table.schema table.name column.name,
          Text.isBlank modelled = true := by
  obtain ⟨-, hresult, -⟩ := (columnType table column model).run_eq (Memo.sound_after asked)
  simp only [hresult, columnType_eq_ok_iff]
  exact Column.isBlank_resolvedType?_iff

/-- The model's blank type goes before the logical type, and the column is added without a type. -/
theorem columnType_blank_of_model :
    let table : ObjectName := { name := "t" }
    let column : Column := { name := "c", logical := some (.scalar .int32) }
    let model : Model := {
      tables := [{ name := "t", columns := [{ name := "c", storeType := some " " }] }] }
    ((columnType table column (some model)) (.after [])).result = .ok " " ∧
      (Generator.standard.generate (some model) [.addColumn table column]).toOption.map
          (List.map Command.text) = some ["ALTER TABLE \"t\" ADD \"c\"   NOT NULL;\n"] := by
  intro table column model
  exact ⟨rfl, by decide +kernel⟩

end Statement

end SchemaDdl
