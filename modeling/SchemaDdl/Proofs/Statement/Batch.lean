import SchemaDdl.Proofs.Annotation.Difference
import SchemaDdl.Proofs.Quoting.Statements
import SchemaDdl.Proofs.Statement.Course
import SchemaDdl.Proofs.Statement.Success

/-!
# Operations of several statements

Altering a table and moving an object takes a row of statements in one
command, or none if nothing changes. The extensions of a database are created
one after the other, each in a command of its own.
-/

namespace SchemaDdl

open Render Sql Sql.Fragment

def Generator.batched (g : Generator) (statements : List String) : List Command :=
  if statements = [] then [] else [⟨g.lines statements, false⟩]

namespace Statement

variable {g : Generator} {version : Version} {schema : String}

theorem isBlank_lines {statements : List String} (hne : statements ≠ [])
    (h : ∀ statement ∈ statements, Text.isBlank statement = false) :
    Text.isBlank (g.lines statements) = false := by
  cases statements with
  | nil => exact absurd rfl hne
  | cons first rest =>
    rw [Generator.lines_cons]
    simp only [String.append_assoc]
    exact Text.isBlank_append_left (h first List.mem_cons_self) _

theorem sends_batched {statements : List String} {p : Prop} [Decidable p]
    (hp : p ↔ statements ≠ []) (h : ∀ statement ∈ statements, Text.isBlank statement = false) :
    (onlyIf p (close false)).Sends (g.lines statements) (g.batched statements) := by
  rw [onlyIf, Generator.batched]
  by_cases hempty : statements = []
  · rw [if_neg (by simp [hp, hempty]), if_pos hempty]
    exact ⟨rfl, fun _ => rfl⟩
  · rw [if_pos (hp.2 hempty), if_neg hempty]
    exact sends_close (isBlank_lines hempty h) false

theorem sends_batch {statements : List String}
    (h : ∀ statement ∈ statements, Text.isBlank statement = false) :
    (batch g statements).Sends "" (g.batched statements) := by
  cases statements with
  | nil => exact ⟨rfl, fun _ => rfl⟩
  | cons first rest =>
    refine (writes_statements g (first :: rest)).sends ?_
    rw [String.empty_append]
    exact sends_batched (p := True) (by simp) h

/-! ## Altering a table -/

theorem tableChanges_eq_nil_iff {table : String} {new old : AnnotationView} :
    tableChanges table new old = [] ↔
      new.unlogged = old.unlogged ∧ new.comment = old.comment ∧
        ∀ name, new.storage.get? name = old.storage.get? name := by
  have hdiff := StorageParameters.isDiff_changedFrom_removedFrom new.storage old.storage
  have hpart {p : Prop} [Decidable p] (statement : String) :
      (if p then [] else [statement]) = [] ↔ p := by
    split <;> simp [*]
  rw [← hdiff.eq_nil_iff, tableChanges]
  simp only [List.append_eq_nil_iff, hpart, List.isEmpty_iff]
  constructor
  · rintro ⟨⟨⟨hunlogged, hchanged⟩, hremoved⟩, hcomment⟩
    exact ⟨hunlogged, hcomment, hchanged, hremoved⟩
  · rintro ⟨hunlogged, hcomment, hchanged, hremoved⟩
    exact ⟨⟨⟨hunlogged, hchanged⟩, hremoved⟩, hcomment⟩

theorem sends_alterTable (hg : g.dialect = .postgres version schema) {table : ObjectName}
    {annotations old : AnnotationBag} {view oldView : AnnotationView} (htable : table.Valid)
    (hview : AnnotationView.ofBag annotations = .ok view)
    (hold : AnnotationView.ofBag old = .ok oldView) :
    (alterTable g table annotations old).Sends ""
      (g.batched (tableChanges table.quoted view oldView)) := by
  rw [alterTable, hg]
  exact (writes_ofResult hview).sends ((writes_ofResult hold).sends
    ((writes_ofResult (ObjectName.delimit_eq_ok_iff.2 ⟨htable, rfl⟩)).sends
    (sends_batch fun statement => isBlank_tableChanges)))

/-! ## Moving an object -/

theorem writes_renameTo (kind : ObjectKind) {object : ObjectName} {newName : String}
    (hobject : object.Valid) (hname : Identifier.Valid newName) :
    (renameTo g kind object newName).Writes () (g.lines ["ALTER " ++ kind.sql ++ " " ++
      object.quoted ++ " RENAME TO " ++ Identifier.quote newName]) := by
  refine ((writes_append _).then ((writes_appendName hobject).then ((writes_append _).then
    ((writes_appendName (ObjectName.valid_of_name.2 hname)).then (writes_endLine g))))).congr ?_
  simp only [Generator.lines_cons, Generator.lines_nil, String.append_assoc, String.append_empty]
  rfl

theorem writes_moveTo (kind : ObjectKind) {object : ObjectName} {newSchema : String}
    (hobject : object.Valid) (hschema : Identifier.Valid newSchema) :
    (moveTo g kind object newSchema).Writes () (g.lines ["ALTER " ++ kind.sql ++ " " ++
      object.quoted ++ " SET SCHEMA " ++ Identifier.quote newSchema]) := by
  refine ((writes_append _).then ((writes_appendName hobject).then ((writes_append _).then
    ((writes_appendName (ObjectName.valid_of_name.2 hschema)).then (writes_endLine g))))).congr ?_
  simp only [Generator.lines_cons, Generator.lines_nil, String.append_assoc, String.append_empty]
  rfl

end Statement

namespace Relocation

def otherName? (r : Relocation) : Option String := r.newName.filter fun n => n ≠ r.object.name

def otherSchema? (r : Relocation) : Option String :=
  r.newSchema.filter fun s => some s ≠ r.object.schema

def statements (kind : ObjectKind) (r : Relocation) : List String :=
  (r.otherName?.map fun n =>
    "ALTER " ++ kind.sql ++ " " ++ r.object.quoted ++ " RENAME TO " ++ Identifier.quote n).toList ++
  (r.otherSchema?.map fun s =>
    "ALTER " ++ kind.sql ++ " " ++
      ObjectName.quoted ⟨r.object.schema, r.otherName?.getD r.object.name⟩ ++ " SET SCHEMA " ++
      Identifier.quote s).toList

theorem isBlank_statements (kind : ObjectKind) (r : Relocation) :
    ∀ statement ∈ r.statements kind, Text.isBlank statement = false := by
  have hbegin (rest : String) : Text.isBlank ("ALTER " ++ rest) = false :=
    Text.isBlank_append_left (by decide) rest
  intro statement hstatement
  simp only [statements, List.mem_append, Option.mem_toList, Option.map_eq_some_iff] at hstatement
  rcases hstatement with ⟨n, -, rfl⟩ | ⟨s, -, rfl⟩
  · simp only [String.append_assoc]
    exact hbegin _
  · simp only [String.append_assoc]
    exact hbegin _

theorem statements_eq_nil_iff {kind : ObjectKind} {r : Relocation} :
    r.statements kind = [] ↔
      (∀ n ∈ r.newName, n = r.object.name) ∧ ∀ s ∈ r.newSchema, some s = r.object.schema := by
  simp [statements, otherName?, otherSchema?, Option.filter_eq_none_iff]

end Relocation

namespace Statement

variable {g : Generator} {version : Version} {schema : String}

theorem lines_optional {α : Type} (about : Option α) (statement : α → String) :
    g.lines (about.map statement).toList = about.elim "" fun a => g.lines [statement a] := by
  cases about <;> rfl

theorem sends_relocate (hg : g.dialect = .postgres version schema) (kind : ObjectKind)
    {r : Relocation} (hobject : r.object.Valid) (hname : ∀ n ∈ r.newName, Identifier.Valid n)
    (hschema : ∀ s ∈ r.newSchema, Identifier.Valid s) :
    (relocate g kind r).Sends "" (g.batched (r.statements kind)) := by
  have hnew : ∀ n ∈ r.otherName?, Identifier.Valid n :=
    fun n hn => hname n (Option.filter_eq_some_iff.1 hn).1
  have hmoved : ∀ s ∈ r.otherSchema?, Identifier.Valid s :=
    fun s hs => hschema s (Option.filter_eq_some_iff.1 hs).1
  have hrenamed : ObjectName.Valid ⟨r.object.schema, r.otherName?.getD r.object.name⟩ := by
    refine ⟨?_, hobject.2⟩
    cases hother : r.otherName? with
    | none => exact hobject.1
    | some n => exact hnew n hother
  rw [relocate, hg]
  refine (writes_optionally fun n hn => writes_renameTo kind hobject (hnew n hn)).sends
    ((writes_optionally fun s hs => writes_moveTo kind hrenamed (hmoved s hs)).sends ?_)
  have hsome : (r.otherName?.isSome ∨ r.otherSchema?.isSome) ↔ r.statements kind ≠ [] := by
    rw [Relocation.statements]
    cases r.otherName? <;> cases r.otherSchema? <;> simp
  have hsends := sends_batched (g := g) hsome (Relocation.isBlank_statements kind r)
  rw [Relocation.statements, Generator.lines_append, lines_optional, lines_optional] at hsends
  rwa [String.empty_append]

/-! ## Creating extensions -/

end Statement

def Extension.fragments (extension : Extension) : List Fragment :=
  words "CREATE EXTENSION IF NOT EXISTS " :: identifier extension.name ::
    (Statement.namedFragments "SCHEMA" extension.schema ++
      Statement.namedFragments "VERSION" extension.version)

namespace Statement

variable {g : Generator} {version : Version} {schema : String}

theorem sends_createExtension {extension : Extension} (h : extension.Valid) :
    (createExtension g extension).Sends "" [⟨g.sentence extension.fragments, true⟩] := by
  refine Sends.begin ((writes_appendName (ObjectName.valid_of_name.2 h.1)).sends
    ((writes_namedClause _ h.2.1).sends ((writes_namedClause _ h.2.2).sends
    (sends_sentence ?_ ?_))))
  · simp [Extension.fragments, render_cons, render_append, ObjectName.quoted, String.append_assoc]
  · simp only [String.append_assoc]
    exact Text.isBlank_append_left (Text.isBlank_ofList_cons (by decide) _) _

/-- By induction on the extensions, each of which leaves nothing but its command behind. -/
theorem sends_createExtensions {extensions : List Extension}
    (h : ∀ extension ∈ extensions, extension.Valid) :
    (extensions.forM (createExtension g)).Sends ""
      (extensions.map fun extension => ⟨g.sentence extension.fragments, true⟩) := by
  induction extensions with
  | nil => exact ⟨rfl, fun _ => rfl⟩
  | cons extension rest ih =>
    obtain ⟨hfirst, hrest⟩ := List.forall_mem_cons.1 h
    exact (sends_createExtension hfirst).then (sentence_createExtension g extension).moves
      (ih hrest)

theorem sends_alterDatabase (hg : g.dialect = .postgres version schema)
    {annotations : AnnotationBag} {view : AnnotationView}
    (hview : AnnotationView.ofBag annotations = .ok view)
    (h : ∀ extension ∈ view.extensions, extension.Valid) :
    (alterDatabase g annotations).Sends ""
      (view.extensions.map fun extension => ⟨g.sentence extension.fragments, true⟩) := by
  rw [alterDatabase, hg]
  exact (writes_ofResult hview).sends (sends_createExtensions h)

end Statement

end SchemaDdl
