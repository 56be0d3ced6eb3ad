import SchemaDdl.Proofs.Statement.Definition

/-!
# Places of a column

A column is defined where its table is created and where it is added, and it
is altered later. Two columns that have one name, one type and one set of
annotations are defined in the same place of the same text: all that the
commands tell of their other properties stands in the definition.
-/

namespace SchemaDdl

open Render Statement

/-! ## Texts with a gap -/

/-- Everything that is filled in stands between the same two texts. -/
def Text.Frames (f : String → String) : Prop :=
  ∃ before after, ∀ s, f s = before ++ s ++ after

namespace Text.Frames

variable {f : String → String}

theorem injective (h : Frames f) {s t : String} : f s = f t ↔ s = t := by
  obtain ⟨before, after, hf⟩ := h
  rw [hf, hf, String.append_left_inj, String.append_right_inj]

theorem self : Frames fun s => s :=
  ⟨"", "", fun s => by rw [String.empty_append, String.append_empty]⟩

theorem after_text (h : Frames f) (text : String) : Frames fun s => text ++ f s := by
  obtain ⟨before, after, hf⟩ := h
  refine ⟨text ++ before, after, fun s => ?_⟩
  simp only [hf, String.append_assoc]

theorem before_text (h : Frames f) (text : String) : Frames fun s => f s ++ text := by
  obtain ⟨before, after, hf⟩ := h
  refine ⟨before, after ++ text, fun s => ?_⟩
  simp only [hf, String.append_assoc]

theorem comp {f g : String → String} (hf : Frames f) (hg : Frames g) : Frames fun s => f (g s) := by
  obtain ⟨before, after, hf⟩ := hf
  obtain ⟨first, last, hg⟩ := hg
  refine ⟨before ++ first, last ++ after, fun s => ?_⟩
  simp only [hf, hg, String.append_assoc]

theorem intercalate (h : Frames f) (separator : String) (first rest : List String) :
    Frames fun s => separator.intercalate (first ++ f s :: rest) := by
  have hrest : Frames fun s => separator.intercalate (f s :: rest) := by
    cases rest with
    | nil => simpa only [String.intercalate_singleton] using h
    | cons next rest =>
      simp only [String.intercalate_cons_cons]
      exact (h.before_text _).before_text _
  cases first with
  | nil => exact hrest
  | cons start first =>
    have happend (s : String) : separator.intercalate (start :: first ++ f s :: rest) =
        separator.intercalate (start :: first) ++ separator ++
          separator.intercalate (f s :: rest) :=
      String.intercalate_append_of_ne_nil (List.cons_ne_nil _ _) (List.cons_ne_nil _ _)
    simpa only [happend] using hrest.after_text _

theorem lines (h : Frames f) (g : Generator) (first rest : List String) :
    Frames fun s => g.lines (first ++ f s :: rest) := by
  simp only [Generator.lines_append, Generator.lines_cons]
  exact (((h.before_text _).before_text _).before_text _).after_text _

theorem elementLines (h : Frames f) (first rest : List String) :
    Frames fun s => Statement.elementLines (first ++ f s :: rest) := by
  simp only [Statement.elementLines, List.map_append, List.map_cons]
  exact (((h.after_text _).intercalate _ _ _).after_text _).before_text _

end Text.Frames

/-! ## Places of a column -/

inductive ColumnSite where
  | created (d : TableDefinition) (before after : List Column)
  | added (table : ObjectName)
  | altered (table : ObjectName) (old : Column)

namespace ColumnSite

def table : ColumnSite → ObjectName
  | created d _ _ => d.table
  | added table => table
  | altered table _ => table

def operation (column : Column) : ColumnSite → Operation
  | created d before after => .createTable { d with columns := before ++ column :: after }
  | added table => .addColumn table column
  | altered table old => .alterColumn table column old

def IsDefinition : ColumnSite → Prop
  | altered _ _ => False
  | _ => True

end ColumnSite

/-- Columns that differ in nothing that is looked at around their definitions. -/
structure Column.Twins (column other : Column) : Prop where
  name : other.name = column.name
  annotations : other.annotations = column.annotations
  resolvedType? : ∀ table model, other.resolvedType? table model = column.resolvedType? table model

namespace ColumnSite

variable {g : Generator} {version : Version} {schema : String} {model : Option Model}
  {column other : Column} {commands others : List Command}

/-- Two runs with two columns send one command each, with the same texts around the definitions. -/
def SameAround (site : ColumnSite) (column other : Column) (model : Option Model)
    (commands others : List Command) : Prop :=
  ∃ view storeType frame, AnnotationView.ofBag column.annotations = .ok view ∧
    column.resolvedType? site.table model = some storeType ∧ Text.Frames frame ∧
    commands = [⟨frame (column.definition view.strategy storeType), false⟩] ∧
    others = [⟨frame (other.definition view.strategy storeType), false⟩]

theorem sameAround_added (hg : g.dialect = .postgres version schema) {table : ObjectName}
    (htwins : column.Twins other) (hcolumn : isSystemColumn column.name = false)
    (h : g.commandsOf model (.addColumn table column) = .ok commands)
    (hother : g.commandsOf model (.addColumn table other) = .ok others) :
    (added table).SameAround column other model commands others := by
  obtain ⟨hvalid, hok, rfl⟩ := Generator.commandsOf_eq_ok_iff.1 h
  obtain ⟨hotherValid, hotherOk, rfl⟩ := Generator.commandsOf_eq_ok_iff.1 hother
  have hotherColumn : isSystemColumn other.name = false := by rwa [htwins.name]
  obtain ⟨view, storeType, hview, htype, hsends⟩ :=
    exists_sends_addColumn hg hvalid hcolumn ⟨(), hok⟩
  obtain ⟨otherView, otherType, hotherView, hotherType, hotherSends⟩ :=
    exists_sends_addColumn hg hotherValid hotherColumn ⟨(), hotherOk⟩
  rw [htwins.annotations] at hotherView
  rw [htwins.resolvedType?] at hotherType
  rw [htwins.name] at hotherSends
  obtain rfl := Except.ok.inj (hview.symm.trans hotherView)
  obtain rfl := Option.some.inj (htype.symm.trans hotherType)
  have hframe := Text.Frames.self.after_text ("ALTER TABLE " ++ table.quoted ++ " ADD ")
  exact ⟨view, storeType, _, hview, htype, hframe.lines g [] _, hsends.commands_eq,
    hotherSends.commands_eq⟩

/-! ### Columns of new tables -/

theorem userColumns_append_cons (hcolumn : isSystemColumn column.name = false)
    (before after : List Column) :
    TableDefinition.userColumns (before ++ column :: after) =
      TableDefinition.userColumns before ++ column :: TableDefinition.userColumns after := by
  simp [TableDefinition.userColumns, hcolumn]

/-- The comments of the columns of a table are the same with either of the two. -/
theorem mapM_commentOf_of_twins (htwins : column.Twins other)
    (hcolumn : isSystemColumn column.name = false) (before after : List Column) :
    (TableDefinition.userColumns (before ++ other :: after)).mapM commentOf =
      (TableDefinition.userColumns (before ++ column :: after)).mapM commentOf := by
  have hother : isSystemColumn other.name = false := by rwa [htwins.name]
  have hcomment : commentOf other = commentOf column := by
    rw [commentOf, commentOf, htwins.annotations, htwins.name]
  rw [userColumns_append_cons hcolumn, userColumns_append_cons hother, List.mapM_append,
    List.mapM_append, List.mapM_cons, List.mapM_cons, hcomment]

theorem elements_eq (hcolumn : isSystemColumn column.name = false) (g : Generator)
    (d : TableDefinition) (before after : List Column) (model : Option Model) :
    let text (column : Column) := (columnDefinition g d.table column model).text
    (TableDefinition.userColumns (before ++ column :: after)).map text ++
        d.keyClauses.map Render.text =
      (TableDefinition.userColumns before).map text ++ text column ::
        ((TableDefinition.userColumns after).map text ++ d.keyClauses.map Render.text) := by
  intro text
  rw [userColumns_append_cons hcolumn, List.map_append, List.map_cons, List.append_assoc,
    List.cons_append]

theorem frames_creation (g : Generator) (d : TableDefinition) (view : AnnotationView)
    (before after comments : List String) :
    Text.Frames fun s => g.lines (d.creation view (before ++ s :: after) :: comments) := by
  have helements := Text.Frames.self.elementLines before after
  have hcreation : Text.Frames fun s => d.creation view (before ++ s :: after) := by
    delta TableDefinition.creation
    exact ((helements.after_text _).before_text _).before_text _
  exact hcreation.lines g [] comments

theorem exists_text_created (hg : g.dialect = .postgres version schema) {d : TableDefinition}
    {before after : List Column} (hcolumn : isSystemColumn column.name = false)
    (h : g.commandsOf model ((created d before after).operation column) = .ok commands) :
    ∃ tableView columns view storeType,
      AnnotationView.ofBag d.annotations = .ok tableView ∧
        (TableDefinition.userColumns (before ++ column :: after)).mapM commentOf = .ok columns ∧
        AnnotationView.ofBag column.annotations = .ok view ∧
        column.resolvedType? d.table model = some storeType ∧
        let text (column : Column) := (columnDefinition g d.table column model).text
        commands = [⟨g.lines (d.creation tableView
          ((TableDefinition.userColumns before).map text ++
            column.definition view.strategy storeType ::
              ((TableDefinition.userColumns after).map text ++ d.keyClauses.map Render.text)) ::
          d.comments tableView columns), false⟩] := by
  obtain ⟨hvalid, hok, rfl⟩ := Generator.commandsOf_eq_ok_iff.1 h
  obtain ⟨tableView, columns, htableView, hcolumns, hdefined, hsends⟩ :=
    exists_sends_createTable hg hvalid ⟨(), hok⟩
  have huser : column ∈ TableDefinition.userColumns (before ++ column :: after) := by
    rw [userColumns_append_cons hcolumn]
    exact List.mem_append_right _ List.mem_cons_self
  obtain ⟨view, storeType, hview, htype, hwrites⟩ :=
    exists_writes_columnDefinition hg (hdefined column huser)
  refine ⟨tableView, columns, view, storeType, htableView, hcolumns, hview, htype, ?_⟩
  intro text
  rw [← hwrites.text_eq, ← elements_eq hcolumn g d before after model]
  exact hsends.commands_eq

theorem sameAround_created (hg : g.dialect = .postgres version schema) {d : TableDefinition}
    {before after : List Column} (htwins : column.Twins other)
    (hcolumn : isSystemColumn column.name = false)
    (h : g.commandsOf model ((created d before after).operation column) = .ok commands)
    (hother : g.commandsOf model ((created d before after).operation other) = .ok others) :
    (created d before after).SameAround column other model commands others := by
  have hotherColumn : isSystemColumn other.name = false := by rwa [htwins.name]
  obtain ⟨tableView, columns, view, storeType, htableView, hcolumns, hview, htype, hcommands⟩ :=
    exists_text_created hg hcolumn h
  obtain ⟨otherTableView, otherColumns, otherView, otherType, hotherTableView, hotherColumns,
    hotherView, hotherType, hothers⟩ := exists_text_created hg hotherColumn hother
  -- Both runs read the same annotations, types and comments, and the texts differ in one place.
  rw [htwins.annotations] at hotherView
  rw [htwins.resolvedType?] at hotherType
  rw [mapM_commentOf_of_twins htwins hcolumn] at hotherColumns
  obtain rfl := Except.ok.inj (htableView.symm.trans hotherTableView)
  obtain rfl := Except.ok.inj (hview.symm.trans hotherView)
  obtain rfl := Option.some.inj (htype.symm.trans hotherType)
  obtain rfl := Except.ok.inj (hcolumns.symm.trans hotherColumns)
  have hframe := frames_creation g d tableView
  exact ⟨view, storeType, _, hview, htype, hframe _ _ _, hcommands, hothers⟩

theorem sameAround (hg : g.dialect = .postgres version schema) {site : ColumnSite}
    (hsite : site.IsDefinition) (htwins : column.Twins other)
    (hcolumn : isSystemColumn column.name = false)
    (h : g.commandsOf model (site.operation column) = .ok commands)
    (hother : g.commandsOf model (site.operation other) = .ok others) :
    site.SameAround column other model commands others := by
  cases site with
  | created d before after => exact sameAround_created hg htwins hcolumn h hother
  | added table => exact sameAround_added hg htwins hcolumn h hother
  | altered table old => cases hsite

end ColumnSite

end SchemaDdl
