import SchemaDdl.Proofs.Annotation.Reading
import SchemaDdl.Proofs.Statement.Course
import SchemaDdl.Proofs.SuccessCondition

/-!
# Failures before the first edit

Without validation before it and without a way back after it, the rendering of
an operation may leave a part of itself in the script. It never does where the
annotations cannot be read, since they are read first. Altering a table or a
column leaves nothing behind whatever fails: all that can fail is settled while
nothing is written yet, and what comes then succeeds.
-/

namespace SchemaDdl

open Render

namespace Render

variable {α β : Type}

/-- If the rendering fails, it has made no edit. -/
def Settled (r : Render α) : Prop := ∀ e, r.result = .error e → r.edits = []

theorem Succeeds.settled {r : Render α} (h : r.Succeeds) : r.Settled := by
  intro e he
  obtain ⟨a, ha⟩ := h
  rw [ha] at he
  cases he

/-- A part that makes no edit may fail before one that is settled. -/
theorem Silent.settled_bind {r : Render α} {f : α → Render β} (h : r.Silent)
    (hf : ∀ a, r.result = .ok a → (f a).Settled) : (r >>= f).Settled := by
  intro e he
  induction r with
  | done result =>
    cases result with
    | ok a => exact hf a rfl e he
    | error _ => rfl
  | write edit next _ => exact h.elim
  | ask q next ih => exact ih q.resolve (h q.resolve) hf he

theorem Settled.builder_write {r : Render α} (h : r.Settled) {script : Script}
    (hmemo : script.memo.Sound) {e : DdlError} (he : (script.write r).1 = .error e) :
    (script.write r).2.builder = script.builder := by
  obtain ⟨hedits, hresult, -⟩ := r.run_eq hmemo
  rw [Script.write] at he ⊢
  simp only [hedits, h e (hresult.symm.trans he), Builder.run_nil]

end Render

/-! ## Annotations -/

namespace AnnotationView

open Annotation

theorem exists_ofBag_eq_error {bag : AnnotationBag} (h : ¬Readable bag) :
    ∃ fault : Fault, ofBag bag = .error (.config fault.text) := by
  rw [Readable] at h
  rw [ofBag] at h ⊢
  cases hadd : ({} : AnnotationView).addAll bag.entries with
  | ok view => exact absurd ⟨view, by rw [hadd]⟩ h
  | error fault => exact ⟨fault, rfl⟩

theorem not_readable_of_deprecatedKey {bag : AnnotationBag} (h : deprecatedKey ∈ bag.keys) :
    ¬Readable bag := by
  rintro ⟨view, hview⟩
  exact deprecatedKey_notMem hview h

end AnnotationView

/-- The rendering is an error about annotations and nothing else. -/
def Render.Refused {α : Type} (r : Render α) : Prop :=
  ∃ fault : Annotation.Fault, r = ofResult (.error (.config fault.text))

namespace Statement

/-- Annotations are read in order; the first ones that cannot be read are refused. -/
theorem refused_ofBag {α : Type} {bag : AnnotationBag} {f : AnnotationView → Render α}
    (h : AnnotationView.Readable bag → ∀ view, (f view).Refused) :
    (ofResult (AnnotationView.ofBag bag) >>= f).Refused := by
  by_cases hreadable : AnnotationView.Readable bag
  · obtain ⟨view, hview⟩ := hreadable
    rw [hview, ofResult_ok_bind]
    exact h ⟨view, hview⟩ view
  · obtain ⟨fault, hfault⟩ := AnnotationView.exists_ofBag_eq_error hreadable
    exact ⟨fault, by rw [hfault]; rfl⟩

theorem ofBag_eq_error_of_commentOf {column : Column} {e : DdlError}
    (h : commentOf column = .error e) : AnnotationView.ofBag column.annotations = .error e := by
  rw [commentOf] at h
  cases hbag : AnnotationView.ofBag column.annotations with
  | ok view =>
    rw [hbag] at h
    cases h
  | error other =>
    rw [hbag] at h
    cases h
    rfl

theorem mapM_commentOf_eq_error {columns : List Column} {column : Column} (hmem : column ∈ columns)
    (h : ¬AnnotationView.Readable column.annotations) :
    ∃ fault : Annotation.Fault, columns.mapM commentOf = .error (.config fault.text) := by
  cases hcomments : columns.mapM commentOf with
  | ok comments =>
    obtain ⟨comment, hcomment⟩ := Result.exists_mapM_iff.1 ⟨comments, hcomments⟩ column hmem
    obtain ⟨view, hview, -⟩ := commentOf_eq_ok_iff.1 hcomment
    exact absurd ⟨view, hview⟩ h
  | error e =>
    obtain ⟨other, -, hother⟩ := Result.exists_of_mapM_error hcomments
    have hbag := ofBag_eq_error_of_commentOf hother
    have hunreadable : ¬AnnotationView.Readable other.annotations := by
      rintro ⟨view, hview⟩
      rw [hview] at hbag
      cases hbag
    obtain ⟨fault, hfault⟩ := AnnotationView.exists_ofBag_eq_error hunreadable
    rw [hfault] at hbag
    cases hbag
    exact ⟨fault, rfl⟩

theorem refused_createTable {g : Generator} {version : Version} {schema : String}
    (hg : g.dialect = .postgres version schema) {d : TableDefinition} {model : Option Model}
    {bag : AnnotationBag} (hbag : bag ∈ (Operation.createTable d).bags)
    (h : ¬AnnotationView.Readable bag) : (createTable g d model true).Refused := by
  rw [createTable, hg]
  refine refused_ofBag fun hreadable view => ?_
  rcases List.mem_cons.1 hbag with rfl | hbag
  · exact absurd hreadable h
  · obtain ⟨column, hcolumn, rfl⟩ := List.mem_map.1 hbag
    obtain ⟨fault, hfault⟩ := mapM_commentOf_eq_error hcolumn h
    simp only [hfault]
    exact ⟨fault, rfl⟩

theorem refused_addColumn {g : Generator} {version : Version} {schema : String}
    (hg : g.dialect = .postgres version schema) {table : ObjectName} {column : Column}
    {model : Option Model} {bag : AnnotationBag}
    (hbag : bag ∈ (Operation.addColumn table column).bags) (h : ¬AnnotationView.Readable bag) :
    (addColumn g table column model true).Refused := by
  obtain ⟨own, hown, rfl⟩ := List.mem_map.1 hbag
  obtain ⟨hmem, huser⟩ := List.mem_filter.1 hown
  obtain rfl := List.mem_singleton.1 hmem
  rw [addColumn, hg]
  simp only [(by simpa using huser : isSystemColumn own.name = false), Bool.false_eq_true, if_false]
  exact refused_ofBag fun hreadable => absurd hreadable h

end Statement

/-- Annotations that cannot be read are refused before anything is asked for or written. -/
theorem Generator.refused_dispatch {g : Generator} {version : Version} {schema : String}
    (hg : g.dialect = .postgres version schema) (model : Option Model) {op : Operation}
    {bag : AnnotationBag} (hbag : bag ∈ op.bags) (h : ¬AnnotationView.Readable bag) :
    (g.dispatch op model).Refused := by
  cases op with
  | createTable d => exact Statement.refused_createTable hg hbag h
  | addColumn table column => exact Statement.refused_addColumn hg hbag h
  | alterTable table annotations old =>
    rw [dispatch, Statement.alterTable, hg]
    refine Statement.refused_ofBag fun hnew _ => Statement.refused_ofBag fun hold => ?_
    rcases List.mem_cons.1 hbag with rfl | hbag
    · exact absurd hnew h
    · rw [List.mem_singleton.1 hbag] at h
      exact absurd hold h
  | alterColumn table column old =>
    rw [dispatch, Statement.alterColumn, hg]
    refine Statement.refused_ofBag fun hnew _ => Statement.refused_ofBag fun hold => ?_
    rcases List.mem_cons.1 hbag with rfl | hbag
    · exact absurd hnew h
    · rw [List.mem_singleton.1 hbag] at h
      exact absurd hold h
  | createIndex d =>
    rw [dispatch, Statement.createIndex, hg]
    rw [List.mem_singleton.1 hbag] at h
    exact Statement.refused_ofBag fun hreadable => absurd hreadable h
  | alterDatabase annotations =>
    rw [dispatch, Statement.alterDatabase, hg]
    rw [List.mem_singleton.1 hbag] at h
    exact Statement.refused_ofBag fun hreadable => absurd hreadable h
  | _ => cases hbag

/-! ## Alterations -/

def Operation.IsAlteration : Operation → Prop
  | alterTable _ _ _ => True
  | alterColumn _ _ _ => True
  | _ => False

namespace Statement

variable {g : Generator} {version : Version} {schema : String}

theorem settled_alterTable (hg : g.dialect = .postgres version schema) (table : ObjectName)
    (annotations old : AnnotationBag) : (alterTable g table annotations old).Settled := by
  rw [alterTable, hg]
  refine (silent_ofResult _).settled_bind fun view _ => ?_
  refine (silent_ofResult _).settled_bind fun oldView _ => ?_
  refine (silent_ofResult _).settled_bind fun name _ => ?_
  exact (succeeds_batch g _).settled

theorem settled_alterColumn (hg : g.dialect = .postgres version schema) (table : ObjectName)
    (column old : Column) (model : Option Model) :
    (alterColumn g table column old model).Settled := by
  rw [alterColumn, hg]
  refine (silent_ofResult _).settled_bind fun view _ => ?_
  refine (silent_ofResult _).settled_bind fun oldView _ => ?_
  split
  · exact (succeeds_pure _).settled
  · refine (silent_columnType table column model).settled_bind fun storeType _ => ?_
    refine (silent_ofResult _).onlyIf.settled_bind fun _ _ => ?_
    refine (silent_ofResult _).settled_bind fun tableName htable => ?_
    refine (silent_ofResult _).settled_bind fun columnName hcolumn => ?_
    -- What follows checks the names of the table and the column once more, and nothing else.
    have hname : Identifier.Valid column.name := (Identifier.delimit_eq_ok_iff.1 hcolumn).1
    obtain ⟨owned, howned⟩ := succeeds_createBackingSequence hg view.strategy storeType
      (ObjectName.delimit_eq_ok_iff.1 htable).1 hname
    exact (succeeds_bind_iff.2
      ⟨owned, howned, succeeds_columnChanges _ _ _ _ _ _ _ _ hname⟩).settled

end Statement

theorem Generator.settled_dispatch {g : Generator} {version : Version} {schema : String}
    (hg : g.dialect = .postgres version schema) (model : Option Model) {op : Operation}
    (h : op.IsAlteration) : (g.dispatch op model).Settled := by
  cases op with
  | alterTable table annotations old => exact Statement.settled_alterTable hg table annotations old
  | alterColumn table column old => exact Statement.settled_alterColumn hg table column old model
  | _ => exact h.elim

namespace Script

/-- Written without validation and without a way back, an operation with annotations that cannot
be read, such as the marker of former times, is an error of the configuration and leaves the whole
script as it is. An alteration that fails for any reason leaves the builder as it is. -/
theorem write_dispatch_error (builder : Builder) (asked : List TypeQuery) (terminator : String)
    (version : Version) (schema : String) (model : Option Model) (op : Operation) :
    let script : Script := ⟨builder, .after asked⟩
    let written := script.write (Generator.dispatch ⟨terminator, .postgres version schema⟩ op model)
    (∀ bag ∈ op.bags, Annotation.deprecatedKey ∈ bag.keys → ¬AnnotationView.Readable bag) ∧
      ((∃ bag ∈ op.bags, ¬AnnotationView.Readable bag) →
        ∃ text, written = (.error (.config text), script)) ∧
      (op.IsAlteration → ∀ e, written.1 = .error e → written.2.builder = builder) := by
  intro script written
  let g : Generator := ⟨terminator, .postgres version schema⟩
  have hg : g.dialect = .postgres version schema := rfl
  refine ⟨fun bag _ => AnnotationView.not_readable_of_deprecatedKey, ?_, ?_⟩
  · rintro ⟨bag, hbag, h⟩
    obtain ⟨fault, hfault⟩ := Generator.refused_dispatch hg model hbag h
    have hwritten : written = script.write (ofResult (.error (.config fault.text))) :=
      congrArg script.write hfault
    exact ⟨fault.text, hwritten⟩
  · intro halters e he
    exact (Generator.settled_dispatch hg model halters).builder_write (Memo.sound_after asked) he

/-- Even for a column of the server the marker is refused, on the column as it was before. A serial
column without a name fails before its sequence is written. -/
theorem write_dispatch_error_altered :
    let marked : AnnotationBag := .ofList [("Postgres:ValueGeneratedOnAdd", .bool true)]
    let serial : AnnotationBag :=
      .ofList [("Postgres:ValueGenerationStrategy", .text "SerialColumn")]
    let builder : Builder := { pending := "SELECT 1", depth := 1, atLineStart := false }
    let script : Script := ⟨builder, .after []⟩
    let write := fun column old => script.write
      (Generator.dispatch ⟨";", .postgres ⟨9, 6⟩ "public"⟩ (.alterColumn { name := "t" } column old)
        none)
    (∃ text, write { name := "xmin" } { annotations := marked } =
      (.error (.config text), script)) ∧
      ∃ e, (write { storeType := some "integer", annotations := serial } {}).1 = .error e ∧
        (write { storeType := some "integer", annotations := serial } {}).2.builder = builder := by
  intro marked serial builder script write
  constructor
  · have hrefused := write_dispatch_error builder [] ";" ⟨9, 6⟩ "public" none
      (.alterColumn { name := "t" } { name := "xmin" } { annotations := marked })
    have hmem : marked ∈ (Operation.alterColumn { name := "t" } { name := "xmin" }
      { annotations := marked }).bags := List.mem_cons_of_mem _ List.mem_cons_self
    exact hrefused.2.1 ⟨marked, hmem, hrefused.1 marked hmem (by decide)⟩
  · have hfails : (write { storeType := some "integer", annotations := serial } {}).1.isOk = false := by
      decide +kernel
    cases h : (write { storeType := some "integer", annotations := serial } {}).1 with
    | ok =>
      rw [h] at hfails
      cases hfails
    | error e =>
      exact ⟨e, rfl, (write_dispatch_error builder [] ";" ⟨9, 6⟩ "public" none _).2.2 trivial e h⟩

end Script

end SchemaDdl
