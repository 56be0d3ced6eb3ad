import SchemaDdl.Proofs.Quoting.Names
import SchemaDdl.Statement.Table

/-!
# Statements that hold nothing but names

Each of them is sent as the words and the names that it consists of, and ends
with the terminator.
-/

namespace SchemaDdl

open Render Sql Sql.Fragment

def Generator.sentence (g : Generator) (body : List Fragment) : String :=
  render (body ++ [words (g.terminator ++ "\n")])

theorem Generator.sentence_eq (g : Generator) (body : List Fragment) :
    g.sentence body = render body ++ g.terminator ++ "\n" := by
  simp [sentence, render_append, render_cons, String.append_assoc]

namespace Statement

variable {g : Generator}

theorem sends_sentence {suppressed : Bool} {pending : String} {body : List Fragment}
    (hbody : render body = pending) (h : Text.isBlank pending = false) :
    (g.terminate suppressed).Sends pending [⟨g.sentence body, suppressed⟩] := by
  refine (sends_terminate g suppressed h).congr ?_
  rw [Generator.sentence_eq, hbody]

theorem sends_sentence_then {suppressed : Bool} {pending : String} {body : List Fragment}
    {f : Unit → Render Unit} {rest : List Command} (hbody : render body = pending)
    (h : Text.isBlank pending = false) (hrest : (f ()).Sends "" rest) :
    (g.terminate suppressed >>= f).Sends pending (⟨g.sentence body, suppressed⟩ :: rest) := by
  refine (hrest.after_terminate h).congr ?_
  rw [Generator.sentence_eq, hbody]

/-! ## Tables, columns and constraints -/

theorem sends_dropTable {table : ObjectName} (h : table.Valid) :
    (dropTable g table).Sends ""
      [⟨g.sentence (words "DROP TABLE " :: table.fragments), false⟩] := by
  refine Sends.begin ((writes_appendName h).sends (sends_sentence ?_ ?_))
  · simp [render_cons, ObjectName.render_fragments]
  · exact Text.isBlank_append_left (by decide) _

theorem sends_renameColumn {table : ObjectName} {column newName : String} (htable : table.Valid)
    (hcolumn : Identifier.Valid column) (hnew : Identifier.Valid newName) :
    (renameColumn g table column newName).Sends "" [⟨g.sentence (words "ALTER TABLE " ::
      (table.fragments ++ [words " RENAME COLUMN ", identifier column, words " TO ",
        identifier newName])), false⟩] := by
  refine Sends.begin ((writes_appendName htable).sends ((writes_append _).sends
    ((writes_appendName (ObjectName.valid_of_name.2 hcolumn)).sends ((writes_append _).sends
    ((writes_appendName (ObjectName.valid_of_name.2 hnew)).sends (sends_sentence ?_ ?_))))))
  · simp [render_cons, render_append, ObjectName.render_fragments, ObjectName.quoted,
      String.append_assoc]
  · simp only [String.append_assoc]
    exact Text.isBlank_append_left (by decide) _

theorem sends_dropIndex {version : Version} {schema : String}
    (hg : g.dialect = .postgres version schema) {index : ObjectName} (h : index.Valid) :
    (dropIndex g index).Sends ""
      [⟨g.sentence (words "DROP INDEX " :: index.fragments), false⟩] := by
  rw [dropIndex, hg]
  refine Sends.begin ((writes_appendName h).sends (sends_sentence ?_ ?_))
  · simp [render_cons, ObjectName.render_fragments]
  · exact Text.isBlank_append_left (by decide) _

theorem sends_dropSequence {sequence : ObjectName} (h : sequence.Valid) :
    (dropSequence g sequence).Sends ""
      [⟨g.sentence (words "DROP SEQUENCE " :: sequence.fragments), false⟩] := by
  refine Sends.begin ((writes_appendName h).sends (sends_sentence ?_ ?_))
  · simp [render_cons, ObjectName.render_fragments]
  · exact Text.isBlank_append_left (by decide) _

theorem sends_addConstraint {table : ObjectName} (htable : table.Valid) {clause : Render Unit}
    {body : List Fragment} (hclause : clause.Writes () (render body)) :
    (addConstraint g table clause).Sends "" [⟨g.sentence (words "ALTER TABLE " ::
      (table.fragments ++ words " ADD " :: body)), false⟩] := by
  refine Sends.begin ((writes_appendName htable).sends ((writes_append _).sends
    (hclause.sends (sends_sentence ?_ ?_))))
  · simp [render_cons, render_append, ObjectName.render_fragments, String.append_assoc]
  · simp only [String.append_assoc]
    exact Text.isBlank_append_left (by decide) _

theorem sends_dropConstraint {table : ObjectName} {constraint : String} (htable : table.Valid)
    (hconstraint : Identifier.Valid constraint) :
    (dropConstraint g table constraint).Sends "" [⟨g.sentence (words "ALTER TABLE " ::
      (table.fragments ++ [words " DROP CONSTRAINT ", identifier constraint])), false⟩] := by
  refine Sends.begin ((writes_appendName htable).sends ((writes_append _).sends
    ((writes_appendName (ObjectName.valid_of_name.2 hconstraint)).sends (sends_sentence ?_ ?_))))
  · simp [render_cons, render_append, ObjectName.render_fragments, ObjectName.quoted,
      String.append_assoc]
  · simp only [String.append_assoc]
    exact Text.isBlank_append_left (by decide) _

/-! ## Schemas and databases -/

theorem sends_dropSchema {schema : String} (h : Identifier.Valid schema) :
    (dropSchema g schema).Sends ""
      [⟨g.sentence [words "DROP SCHEMA ", identifier schema], false⟩] := by
  refine Sends.begin ((writes_appendName (ObjectName.valid_of_name.2 h)).sends
    (sends_sentence ?_ ?_))
  · simp [render_cons, ObjectName.quoted]
  · exact Text.isBlank_append_left (by decide) _

theorem sends_createDatabase {version : Version} {schema : String}
    (hg : g.dialect = .postgres version schema) {d : DatabaseDefinition}
    (hname : Identifier.Valid d.name) (htemplate : ∀ n ∈ d.template, Identifier.Valid n)
    (htablespace : ∀ n ∈ d.tablespace, Identifier.Valid n) :
    (createDatabase g d).Sends "" [⟨g.sentence (words "CREATE DATABASE " :: identifier d.name ::
      (namedFragments "TEMPLATE" d.template ++ namedFragments "TABLESPACE" d.tablespace)),
      true⟩] := by
  rw [createDatabase, hg]
  refine Sends.begin ((writes_appendName (ObjectName.valid_of_name.2 hname)).sends
    ((writes_namedClause _ htemplate).sends ((writes_namedClause _ htablespace).sends
    (sends_sentence ?_ ?_))))
  · simp [render_cons, render_append, ObjectName.quoted, String.append_assoc]
  · simp only [String.append_assoc]
    exact Text.isBlank_append_left (by decide) _

/-- The name of the database stands in three commands, in one of them as a literal. -/
theorem sends_dropDatabase {version : Version} {schema : String}
    (hg : g.dialect = .postgres version schema) {name : String} (h : Identifier.Valid name) :
    (dropDatabase g name).Sends "" [
      ⟨g.sentence [words "REVOKE CONNECT ON DATABASE ", identifier name, words " FROM PUBLIC"],
        true⟩,
      ⟨g.sentence [words ("SELECT pg_terminate_backend(pg_stat_activity." ++
        processColumn version ++ ") FROM pg_stat_activity WHERE datname = "),
        .quoted .literal name], true⟩,
      ⟨g.sentence [words "DROP DATABASE ", identifier name], true⟩] := by
  have hblank : ∀ rest, Text.isBlank ("SELECT pg_terminate_backend(pg_stat_activity." ++ rest) =
      false := Text.isBlank_append_left (Text.isBlank_ofList_cons (by decide) _)
  rw [dropDatabase, hg]
  refine (writes_ofResult (Identifier.delimit_eq_ok_iff.2 ⟨h, rfl⟩)).sends ?_
  rw [String.append_empty]
  refine Sends.begin (sends_sentence_then ?_ ?_ (Sends.begin (sends_sentence_then ?_ ?_
    (Sends.begin (sends_sentence ?_ ?_)))))
  · simp [render_cons, String.append_assoc]
  · simp only [String.append_assoc]
    exact Text.isBlank_append_left (Text.isBlank_ofList_cons (by decide) _) _
  · simp [render_cons, sql, String.append_assoc]
    rfl
  · simp only [String.append_assoc]
    exact hblank _
  · simp [render_cons]
  · exact Text.isBlank_append_left (by decide) _

end Statement

end SchemaDdl
