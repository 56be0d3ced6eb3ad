import SchemaDdl.Proofs.Statement.Definition
import SchemaDdl.Proofs.StoreType.Integers

/-!
# Serial columns

The values of a serial column come from a sequence. A definition says so by the
type of the column, an alteration creates the sequence itself. Both do this for
integer types only, and for these in the width of the type.
-/

namespace SchemaDdl

open Render Statement

namespace IntegerWidth

/-- The type of a sequence as it is written: a sequence counts in `bigint` by itself, and before
version 10 it can do nothing else. -/
def sequenceType? (width : IntegerWidth) (version : Version) : Option String :=
  if version.atLeast ⟨10, 0⟩ = true ∧ width ≠ .big then some width.storeType else none

variable {storeType : String} {width : IntegerWidth}

theorem sequenceType?_eq (version : Version) (h : ofStoreType? storeType = some width) :
    Alteration.sequenceType? version storeType = width.sequenceType? version := by
  rw [Alteration.sequenceType?, sequenceType?, h]
  by_cases hversion : version.atLeast ⟨10, 0⟩ = true
  · rw [if_pos hversion]
    cases width <;> simp [hversion, IntegerWidth.storeType]
  · rw [if_neg hversion, if_neg fun hboth => hversion hboth.1]

theorem isSome_ofStoreType?_iff {name : String} :
    (ofStoreType? name).isSome = true ↔
      (∃ d, StoreName.descriptor? (StoreName.key name) = some d ∧ d.isInteger = true) ∧
        Text.Trimmed name.toList := by
  rw [Option.isSome_iff_exists]
  constructor
  · rintro ⟨width, h⟩
    obtain ⟨⟨d, hd, hinteger, -⟩, htrimmed⟩ := ofStoreType?_eq_some_iff_found.1 h
    exact ⟨⟨d, hd, hinteger⟩, htrimmed⟩
  · rintro ⟨⟨d, hd, hinteger⟩, htrimmed⟩
    have hname := (StoreName.descriptor?_eq_some_iff (StoreName.trimmed_key name)).1 hd
    obtain ⟨width, hwidth, -⟩ := hname.exists_width hinteger
    exact ⟨width, ofStoreType?_eq_some_iff_found.2 ⟨⟨d, hd, hinteger, hwidth⟩, htrimmed⟩⟩

end IntegerWidth

namespace Alteration

theorem statements_serial (version : Version) (table : ObjectName) (column : Column)
    {view : AnnotationView} (hserial : view.strategy = .serial) (oldView : AnnotationView)
    (storeType : String) (change : Option IdentityStatement) :
    let sequence : ObjectName := ⟨table.schema, BackingSequence.name table.name column.name⟩
    let width := IntegerWidth.ofStoreType? storeType
    statements version table column view oldView storeType change =
      (width.map fun w => createSequence sequence (w.sequenceType? version)).toList ++
        statements.changes column view oldView storeType (width.map fun _ => sequence) change := by
  intro sequence width
  have hbacking : backing? table column.name view.strategy storeType =
      width.map fun _ => sequence := by
    rw [backing?, hserial, ← IntegerWidth.isSome_ofStoreType?]
    cases hwidth : IntegerWidth.ofStoreType? storeType <;> simp [width, hwidth, sequence]
  rw [statements, hbacking]
  cases hwidth : width with
  | none => rfl
  | some w =>
    rw [IntegerWidth.sequenceType?_eq version hwidth]
    rfl

end Alteration

namespace Generator

/-- What is written for a serial column whose type counts as an integer type of a width, or as none.
It counts as one if it is found, is an integer type as it is found, and has no white space around
it. A definition has the serial type of that width then, and an alteration creates a sequence of
that width and lets the column own it; otherwise the type stays and there is no sequence. -/
structure WritesSerial (g : Generator) (version : Version) (asked : List TypeQuery)
    (model : Option Model) (table : ObjectName) (column : Column) (view : AnnotationView)
    (storeType : String) (width : Option IntegerWidth) : Prop where
  counts : width.isSome = true ↔
    (∃ d, ((Memo.after asked).find { storeName := some storeType }).1 = some d ∧
      d.isInteger = true) ∧ Text.Trimmed storeType.toList
  found : ∀ w ∈ width, ((Memo.after asked).find { storeName := some storeType }).1.map
    Descriptor.storeType = some w.storeType
  definition : (columnDefinition g table column model).result = .ok () →
    (columnDefinition g table column model).text =
      column.head (width.elim storeType IntegerWidth.serialType) ++
        column.defaultText .serial (width.elim storeType IntegerWidth.serialType)
  alteration : ∀ old commands,
    (g.generateWith (.after asked) model [.alterColumn table column old]).1 = .ok commands →
      let sequence : ObjectName := ⟨table.schema, BackingSequence.name table.name column.name⟩
      ∃ oldView, AnnotationView.ofBag old.annotations = .ok oldView ∧
        commands = [⟨Alteration.lines g.terminator table.quoted (Identifier.quote column.name)
          ((width.map fun w => .createSequence sequence (w.sequenceType? version)).toList ++
            Alteration.statements.changes column view oldView storeType
              (width.map fun _ => sequence)
              (IdentityStatement.between? oldView.strategy.identity? none)), false⟩]

/-- Every serial column is written like this, whatever types were looked up before. -/
theorem generateWith_serial (terminator : String) (version : Version) (schema : String)
    (asked : List TypeQuery) (model : Option Model) (table : ObjectName) (column : Column)
    {view : AnnotationView} {storeType : String} (hcolumn : isSystemColumn column.name = false)
    (hview : AnnotationView.ofBag column.annotations = .ok view) (hserial : view.strategy = .serial)
    (htype : (columnType table column model).result = .ok storeType) :
    ∃ width, WritesSerial ⟨terminator, .postgres version schema⟩ version asked model table column
      view storeType width := by
  let g : Generator := ⟨terminator, .postgres version schema⟩
  have hg : g.dialect = .postgres version schema := rfl
  have hresolved := columnType_eq_ok_iff.1 htype
  have hfind := Memo.find_storeName asked storeType
  -- The generator goes by the names alone; what they have to do with resolution is shown for them.
  refine ⟨IntegerWidth.ofStoreType? storeType, ?_, ?_, ?_, ?_⟩
  · rw [hfind]
    exact IntegerWidth.isSome_ofStoreType?_iff
  · intro w hw
    obtain ⟨⟨d, hd, -, hname⟩, -⟩ := IntegerWidth.ofStoreType?_eq_some_iff_found.1 hw
    rw [hfind, hd, Option.map_some, hname]
  · intro hok
    obtain ⟨other, otherType, hother, hotherType, hwrites⟩ :=
      exists_writes_columnDefinition hg ⟨(), hok⟩
    obtain rfl := Except.ok.inj (hview.symm.trans hother)
    obtain rfl := Option.some.inj (hresolved.symm.trans hotherType)
    rw [hwrites.text_eq, Column.definition, hserial, serialStoreType_serial]
    exact String.append_empty
  · intro old commands h sequence
    rw [generateWith_eq _ _ _ (Memo.sound_after asked), commandsOfAll_singleton] at h
    obtain ⟨hvalid, hok, rfl⟩ := commandsOf_eq_ok_iff.1 h
    obtain ⟨other, oldView, otherType, hother, hold, hotherType, hsends⟩ :=
      exists_sends_alterColumn g hg hvalid hcolumn ⟨(), hok⟩
    obtain rfl := Except.ok.inj (hview.symm.trans hother)
    obtain rfl := Option.some.inj (hresolved.symm.trans hotherType)
    refine ⟨oldView, hold, ?_⟩
    have hnone : view.strategy.identity? = none := by
      rw [hserial]
      rfl
    rw [Alteration.statements_serial version table column hserial, hnone] at hsends
    exact hsends.commands_eq

/-- A serial column whose type the model gives, under another name and in upper case. -/
theorem generateWith_serial_model :
    let table : ObjectName := { name := "orders" }
    let column : Column := {
      name := "id"
      annotations := .ofList [("Postgres:ValueGenerationStrategy", .text "SerialColumn")] }
    let model : Model := {
      tables := [{ name := "orders", columns := [{ name := "id", storeType := some "INT8" }] }] }
    ∃ view, AnnotationView.ofBag column.annotations = .ok view ∧ view.strategy = .serial ∧
      (columnType table column (some model)).result = .ok "INT8" ∧
      ∃ width, WritesSerial ⟨";", .postgres ⟨9, 6⟩ "public"⟩ ⟨9, 6⟩ [] (some model) table column
        view "INT8" width := by
  intro table column model
  have hserial : (AnnotationView.ofBag column.annotations).toOption.map
      AnnotationView.strategy = some .serial := by decide +kernel
  have htype : (columnType table column (some model)).result = .ok "INT8" := rfl
  cases hview : AnnotationView.ofBag column.annotations with
  | error e =>
    rw [hview] at hserial
    cases hserial
  | ok view =>
    rw [hview] at hserial
    have hstrategy := Option.some.inj hserial
    exact ⟨view, rfl, hstrategy, htype,
      generateWith_serial ";" ⟨9, 6⟩ "public" [] (some model) table column (by decide) hview
        hstrategy htype⟩

/-- White space before the type is passed over where the type is found, but a serial column of such
a type gets neither a serial type nor a sequence. -/
theorem generate_serial_of_spaced_type :
    let table : ObjectName := { name := "t" }
    let column : Column := {
      name := "c"
      storeType := some " integer"
      annotations := .ofList [("Postgres:ValueGenerationStrategy", .text "SerialColumn")] }
    let sent (op : Operation) : Option (List String) :=
      (Generator.standard.generate none [op]).toOption.map (List.map Command.text)
    (Memo.empty.find { storeName := some " integer" }).1.map Descriptor.isInteger = some true ∧
      sent (.addColumn table column) = some ["ALTER TABLE \"t\" ADD \"c\"  integer NOT NULL;\n"] ∧
      sent (.alterColumn table column column) =
        some ["ALTER TABLE \"t\" ALTER COLUMN \"c\" TYPE  integer;\n" ++
          "ALTER TABLE \"t\" ALTER COLUMN \"c\" SET NOT NULL;\n" ++
          "ALTER TABLE \"t\" ALTER COLUMN \"c\" DROP DEFAULT;\n"] := by
  decide +kernel

end Generator

end SchemaDdl
