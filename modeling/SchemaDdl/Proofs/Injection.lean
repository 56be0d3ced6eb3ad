import SchemaDdl.Proofs.Composition
import SchemaDdl.Proofs.Quoting.Statements

/-!
# Names cannot inject SQL

An operation that holds nothing but names is sent as words, which do not
depend on the names, with the names in quotes between them. Reading the SQL
gives back exactly these names. Only the table of an index that is dropped is
left out, since the index has a name of its own in its schema.
-/

namespace SchemaDdl

open Render Sql Sql.Fragment Statement

/-- The commands end outside of quotes and are read as these pieces. -/
def Sql.ReadAs (commands : List Command) (read : List (List Piece)) : Prop :=
  commands.map (fun c => lex? c.text) = read.map some

namespace Operation

/-- The operations that hold nothing but names and referential actions. -/
def NamesOnly : Operation → Prop
  | dropTable _ => True
  | renameColumn _ _ _ => True
  | dropIndex _ _ => True
  | dropSchema _ => True
  | createDatabase _ => True
  | dropDatabase _ => True
  | dropSequence _ => True
  | addPrimaryKey _ _ => True
  | addForeignKey _ _ => True
  | addUnique _ _ => True
  | dropConstraint _ _ _ => True
  | _ => False

def mapNames (f : String → String) : Operation → Operation
  | dropTable table => dropTable (table.map f)
  | renameColumn table column newName => renameColumn (table.map f) (f column) (f newName)
  | dropIndex index table => dropIndex (index.map f) (table.map f)
  | dropSchema schema => dropSchema (f schema)
  | createDatabase d => createDatabase ⟨f d.name, d.template.map f, d.tablespace.map f⟩
  | dropDatabase name => dropDatabase (f name)
  | dropSequence sequence => dropSequence (sequence.map f)
  | addPrimaryKey table key => addPrimaryKey (table.map f) (key.map f)
  | addForeignKey table key => addForeignKey (table.map f) (key.map f)
  | addUnique table key => addUnique (table.map f) (key.map f)
  | dropConstraint kind table constraint => dropConstraint kind (table.map f) (f constraint)
  | op => op

/-- What is left of an operation without the contents of its names: its kind, which names it has,
how long its lists are, and its referential actions. -/
def shape (op : Operation) : Operation := op.mapNames fun _ => ""

/-- The commands of an operation that holds nothing but names, without their terminators. -/
def bodies (version : Version) : Operation → List (List Fragment)
  | dropTable table => [words "DROP TABLE " :: table.fragments]
  | renameColumn table column newName =>
    [words "ALTER TABLE " :: (table.fragments ++
      [words " RENAME COLUMN ", identifier column, words " TO ", identifier newName])]
  | dropIndex index _ => [words "DROP INDEX " :: index.fragments]
  | dropSchema schema => [[words "DROP SCHEMA ", identifier schema]]
  | createDatabase d =>
    [words "CREATE DATABASE " :: identifier d.name ::
      (namedFragments "TEMPLATE" d.template ++ namedFragments "TABLESPACE" d.tablespace)]
  | dropDatabase name => [
    [words "REVOKE CONNECT ON DATABASE ", identifier name, words " FROM PUBLIC"],
    [words ("SELECT pg_terminate_backend(pg_stat_activity." ++ processColumn version ++
      ") FROM pg_stat_activity WHERE datname = "), .quoted .literal name],
    [words "DROP DATABASE ", identifier name]]
  | dropSequence sequence => [words "DROP SEQUENCE " :: sequence.fragments]
  | addPrimaryKey table key =>
    [words "ALTER TABLE " :: (table.fragments ++ words " ADD " :: key.fragments "PRIMARY KEY")]
  | addForeignKey table key =>
    [words "ALTER TABLE " :: (table.fragments ++ words " ADD " :: key.fragments)]
  | addUnique table key =>
    [words "ALTER TABLE " :: (table.fragments ++ words " ADD " :: key.fragments "UNIQUE")]
  | dropConstraint _ table constraint =>
    [words "ALTER TABLE " :: (table.fragments ++ [words " DROP CONSTRAINT ",
      identifier constraint])]
  | _ => []

/-- The names that an operation carries. -/
def names : Operation → List String
  | dropTable table => table.names
  | renameColumn table column newName => table.names ++ [column, newName]
  | dropIndex index table => index.names ++ table.toList
  | dropSchema schema => [schema]
  | createDatabase d => d.name :: (d.template.toList ++ d.tablespace.toList)
  | dropDatabase name => [name]
  | dropSequence sequence => sequence.names
  | addPrimaryKey table key => table.names ++ key.names
  | addForeignKey table key => table.names ++ key.names
  | addUnique table key => table.names ++ key.names
  | dropConstraint _ table constraint => table.names ++ [constraint]
  | _ => []

/-- The names that the commands of an operation are made from, in the order of the text: all that it
carries, but an index is dropped without its table. -/
def writtenNames : Operation → List String
  | dropIndex index _ => index.names
  | op => op.names

/-- What each command of an operation quotes. The name of a dropped database stands in three
commands, once as a literal; all other names are identifiers of one command. -/
def quotedTexts : Operation → List (List (Quoted × String))
  | dropDatabase name => [[(.identifier, name)], [(.literal, name)], [(.identifier, name)]]
  | op => [op.writtenNames.map (.identifier, ·)]

theorem texts_bodies (version : Version) {op : Operation} (h : op.NamesOnly) :
    (op.bodies version).map texts = op.quotedTexts := by
  have hnamed (keyword : String) (name : Option String) :
      texts (namedFragments keyword name) = name.toList.map (.identifier, ·) := by
    cases name <;> rfl
  cases op with
  | dropDatabase name => rfl
  | createDatabase d => simp [bodies, quotedTexts, writtenNames, names, hnamed]
  | _ => first | exact h.elim | simp [bodies, quotedTexts, writtenNames, names]

theorem bodies_mapNames (version : Version) (f : String → String) (op : Operation) :
    (op.mapNames f).bodies version = (op.bodies version).map (List.map (Fragment.map f)) := by
  have hnamed (keyword : String) (name : Option String) :
      namedFragments keyword (name.map f) =
        (namedFragments keyword name).map (Fragment.map f) := by
    cases name <;> rfl
  cases op with
  | dropDatabase name => rfl
  | createDatabase d => simp [bodies, mapNames, hnamed]
  | _ =>
    simp [bodies, mapNames, ObjectName.fragments_map, KeyConstraint.fragments_map,
      ForeignKey.fragments_map]

theorem follows_namedFragments {keyword : String} (h : Unquoted keyword) (name : Option String) :
    Follows (namedFragments keyword name) := by
  cases name with
  | none => exact .nil
  | some name =>
    refine .words ⟨by simp [String.append_eq_empty_iff], ?_⟩ (.last _ _)
    exact ((by decide : Unquoted " ").append h).append (by decide)

theorem parted_altered {table : ObjectName} {rest : List Fragment} (h : Follows rest) :
    Parted (words "ALTER TABLE " :: (table.fragments ++ rest)) :=
  .words (by decide) (table.parted_fragments.append h)

theorem parted_added {table : ObjectName} {clause : List Fragment} (h : Parted clause) :
    Parted (words "ALTER TABLE " :: (table.fragments ++ words " ADD " :: clause)) :=
  parted_altered (.words (by decide) h)

theorem unquoted_processQuery (version : Version) :
    Unquoted ("SELECT pg_terminate_backend(pg_stat_activity." ++ processColumn version ++
      ") FROM pg_stat_activity WHERE datname = ") := by
  have hcolumn : Unquoted (processColumn version) := by
    rw [processColumn]
    split <;> decide
  exact (Unquoted.append (unquoted_ofList (by decide)) hcolumn).append
    (unquoted_ofList (by decide))

theorem namesOnly_mapNames {f : String → String} {op : Operation} :
    (op.mapNames f).NamesOnly ↔ op.NamesOnly := by
  cases op <;> rfl

theorem parted_bodies (version : Version) (op : Operation) :
    ∀ body ∈ op.bodies version, Parted body := by
  cases op with
  | dropTable table => exact List.forall_mem_singleton.2 (.words (by decide) table.parted_fragments)
  | renameColumn table column newName =>
    exact List.forall_mem_singleton.2 (parted_altered (.words (by decide)
      (.quoted _ _ (.words (by decide) (.last _ _)))))
  | dropIndex index table =>
    exact List.forall_mem_singleton.2 (.words (by decide) index.parted_fragments)
  | dropSchema schema => exact List.forall_mem_singleton.2 (.words (by decide) (.last _ _))
  | createDatabase d =>
    have hname : Parted [identifier d.name] := .last _ _
    exact List.forall_mem_singleton.2 (.words (by decide) (hname.append
      ((follows_namedFragments (by decide) d.template).append
        (follows_namedFragments (by decide) d.tablespace))))
  | dropDatabase name =>
    refine List.forall_mem_cons.2 ⟨?_, List.forall_mem_cons.2 ⟨?_, List.forall_mem_singleton.2 ?_⟩⟩
    · exact .words ⟨by simp, unquoted_ofList (by decide)⟩
        (.quoted _ _ (.words (by decide) .nil))
    · refine .words ⟨?_, unquoted_processQuery version⟩ (.last _ _)
      simp [String.append_eq_empty_iff]
    · exact .words (by decide) (.last _ _)
  | dropSequence sequence =>
    exact List.forall_mem_singleton.2 (.words (by decide) sequence.parted_fragments)
  | addPrimaryKey table key =>
    exact List.forall_mem_singleton.2 (parted_added (key.parted_fragments (by decide)))
  | addForeignKey table key =>
    exact List.forall_mem_singleton.2 (parted_added key.parted_fragments)
  | addUnique table key =>
    exact List.forall_mem_singleton.2 (parted_added (key.parted_fragments (by decide)))
  | dropConstraint kind table constraint =>
    exact List.forall_mem_singleton.2 (parted_altered (.words (by decide) (.last _ _)))
  | _ => exact fun _ h => nomatch h

end Operation

namespace Generator

variable {g : Generator} {version : Version} {schema : String}

theorem sends_bodies (hg : g.dialect = .postgres version schema) (model : Option Model)
    {op : Operation} (hkind : op.NamesOnly) (hvalid : op.Valid) :
    ∃ commands, (g.dispatch op model).Sends "" commands ∧
      commands.map Command.text = (op.bodies version).map g.sentence := by
  cases op with
  | dropTable table => exact ⟨_, sends_dropTable (Requirement.valid_of_object hvalid), rfl⟩
  | renameColumn table column newName =>
    obtain ⟨htable, hnames⟩ := List.forall_mem_append.1 hvalid
    obtain ⟨hname, hnew⟩ := List.forall_mem_cons.1 hnames
    rw [dispatch, hg]
    exact ⟨_, sends_renameColumn (Requirement.valid_of_object htable)
      (Requirement.valid_of_name hname)
      (Requirement.valid_of_name (List.forall_mem_singleton.1 hnew)), rfl⟩
  | dropIndex index table => exact ⟨_, sends_dropIndex hg (Requirement.valid_of_object hvalid), rfl⟩
  | dropSchema name =>
    exact ⟨_, sends_dropSchema (Requirement.valid_of_name (List.forall_mem_singleton.1 hvalid)),
      rfl⟩
  | createDatabase d =>
    obtain ⟨hrest, htablespace⟩ := List.forall_mem_append.1 hvalid
    obtain ⟨hname, htemplate⟩ := List.forall_mem_cons.1 hrest
    exact ⟨_, sends_createDatabase hg (Requirement.valid_of_name hname)
      (Requirement.valid_of_optional htemplate) (Requirement.valid_of_optional htablespace), rfl⟩
  | dropDatabase name =>
    exact ⟨_, sends_dropDatabase hg
      (Requirement.valid_of_name (List.forall_mem_singleton.1 hvalid)), rfl⟩
  | dropSequence sequence =>
    exact ⟨_, sends_dropSequence (Requirement.valid_of_object hvalid), rfl⟩
  | addPrimaryKey table key =>
    obtain ⟨htable, hkey⟩ := List.forall_mem_append.1 hvalid
    exact ⟨_, sends_addConstraint (Requirement.valid_of_object htable)
      (writes_keyClause _ (Requirement.valid_of_key hkey)), rfl⟩
  | addForeignKey table key =>
    obtain ⟨htable, hkey⟩ := List.forall_mem_append.1 hvalid
    exact ⟨_, sends_addConstraint (Requirement.valid_of_object htable)
      (writes_foreignKeyClause (Requirement.valid_of_foreignKey hkey)), rfl⟩
  | addUnique table key =>
    obtain ⟨htable, hkey⟩ := List.forall_mem_append.1 hvalid
    exact ⟨_, sends_addConstraint (Requirement.valid_of_object htable)
      (writes_keyClause _ (Requirement.valid_of_key hkey)), rfl⟩
  | dropConstraint kind table constraint =>
    obtain ⟨hname, htable⟩ := List.forall_mem_cons.1 hvalid
    exact ⟨_, sends_dropConstraint (Requirement.valid_of_object htable)
      (Requirement.valid_of_name hname), rfl⟩
  | _ => exact hkind.elim

def readBack (g : Generator) (body : List Fragment) : List Piece :=
  (body ++ [words (g.terminator ++ "\n")]).flatMap pieces

theorem lex?_sentence (hterminator : Unquoted g.terminator) {body : List Fragment}
    (h : Parted body) : lex? (g.sentence body) = some (g.readBack body) := by
  have hend : g.terminator ++ "\n" ≠ "" ∧ Unquoted (g.terminator ++ "\n") :=
    ⟨by simp [String.append_eq_empty_iff], hterminator.append (by decide)⟩
  exact (h.append (.words hend .nil)).lex?_render

theorem quotedTexts_readBack (g : Generator) (body : List Fragment) :
    Sql.quotedTexts (g.readBack body) = texts body := by
  rw [readBack, quotedTexts_pieces]
  simp

/-- The shape of an operation decides what its commands say outside of quotes. -/
theorem outsideText_bodies (g : Generator) (version : Version) (op : Operation) :
    (op.bodies version).map (fun body => outsideText (g.readBack body)) =
      (op.shape.bodies version).map fun body => outsideText (g.readBack body) := by
  rw [Operation.shape, Operation.bodies_mapNames, List.map_map]
  refine List.map_congr_left fun body _ => ?_
  rw [readBack, ← outsideText_map fun _ => ""]
  simp [readBack]

theorem generate_bodies (hg : g.dialect = .postgres version schema)
    (hterminator : Unquoted g.terminator) (model : Option Model) {op : Operation}
    (hkind : op.NamesOnly) (hvalid : op.validate = .ok ()) :
    ∃ commands, g.generate model [op] = .ok commands ∧
      ReadAs commands ((op.bodies version).map g.readBack) := by
  obtain ⟨commands, hsends, htexts⟩ :=
    sends_bodies hg model hkind (Operation.validate_eq_ok_iff.1 hvalid)
  refine ⟨commands, generate_eq_of_sends hvalid hsends, ?_⟩
  -- Each command is a body with its end, and a parted body is read back piece by piece.
  calc
    commands.map (fun c => lex? c.text) = (commands.map Command.text).map lex? := by
      rw [List.map_map]
      rfl
    _ = (op.bodies version).map fun body => lex? (g.sentence body) := by
      rw [htexts, List.map_map]
      rfl
    _ = (op.bodies version).map fun body => some (g.readBack body) :=
      List.map_congr_left fun body hbody =>
        lex?_sentence hterminator (Operation.parted_bodies version op body hbody)
    _ = ((op.bodies version).map g.readBack).map some := by
      rw [List.map_map]
      rfl

/-- The commands of an operation that holds nothing but names end outside of quotes, they quote
exactly the names of the operation without the table of a dropped index, and what they say outside
of quotes stays the same under all other names. -/
theorem generate_reads_names (terminator : String) (version : Version) (schema : String)
    (hterminator : Unquoted terminator) (model : Option Model) {op : Operation}
    (hkind : op.NamesOnly) (hvalid : op.validate = .ok ()) :
    let g : Generator := ⟨terminator, .postgres version schema⟩
    ∃ commands read, g.generate model [op] = .ok commands ∧ ReadAs commands read ∧
      read.map Sql.quotedTexts = op.quotedTexts ∧
      ∀ otherModel other, other.validate = .ok () → other.shape = op.shape →
        ∃ otherCommands otherRead, g.generate otherModel [other] = .ok otherCommands ∧
          ReadAs otherCommands otherRead ∧
          otherRead.map outsideText = read.map outsideText := by
  intro g
  have hg : g.dialect = .postgres version schema := rfl
  obtain ⟨commands, hcommands, hread⟩ := generate_bodies hg hterminator model hkind hvalid
  refine ⟨commands, (op.bodies version).map g.readBack, hcommands, hread, ?_, ?_⟩
  · rw [← Operation.texts_bodies version hkind, List.map_map]
    exact List.map_congr_left fun body _ => quotedTexts_readBack g body
  · intro otherModel other hother hshape
    have hshapeKind : op.shape.NamesOnly := Operation.namesOnly_mapNames.2 hkind
    rw [← hshape] at hshapeKind
    have hotherKind : other.NamesOnly := Operation.namesOnly_mapNames.1 hshapeKind
    obtain ⟨otherCommands, hotherCommands, hotherRead⟩ :=
      generate_bodies hg hterminator otherModel hotherKind hother
    refine ⟨otherCommands, (other.bodies version).map g.readBack, hotherCommands, hotherRead, ?_⟩
    rw [List.map_map, List.map_map]
    exact (outsideText_bodies g version other).trans
      (hshape ▸ (outsideText_bodies g version op).symm)

/-- A key whose names hold quotes, commas, points and a terminator, and a plain one of its shape. -/
theorem generate_reads_names_foreignKey :
    let g : Generator := ⟨";", .postgres ⟨12, 0⟩ "public"⟩
    let op : Operation := .addForeignKey ⟨some "a\".\"b", "t'; --"⟩ {
      name := some "f\"\""
      columns := ["x, y", "'"]
      principal := { name := "p.q" }
      onDelete := .cascade }
    let other : Operation := .addForeignKey ⟨some "s", "t"⟩ {
      name := some "f"
      columns := ["x", "y"]
      principal := { name := "p" }
      onDelete := .cascade }
    Unquoted ";" ∧ op.NamesOnly ∧ op.validate = .ok () ∧
      ∃ commands read, g.generate none [op] = .ok commands ∧ ReadAs commands read ∧
        read.map Sql.quotedTexts = [[(.identifier, "a\".\"b"), (.identifier, "t'; --"),
          (.identifier, "f\"\""), (.identifier, "x, y"), (.identifier, "'"),
          (.identifier, "p.q")]] ∧
        ∃ otherCommands otherRead, g.generate none [other] = .ok otherCommands ∧
          ReadAs otherCommands otherRead ∧
          otherRead.map outsideText = read.map outsideText := by
  intro g op other
  have hterminator : Unquoted ";" := by decide
  have hkind : op.NamesOnly := trivial
  have hvalid : op.validate = .ok () := Operation.validate_eq_ok_iff.2 (by decide)
  have hother : other.validate = .ok () := Operation.validate_eq_ok_iff.2 (by decide)
  obtain ⟨commands, read, hcommands, hread, hquoted, hsame⟩ :=
    generate_reads_names ";" ⟨12, 0⟩ "public" hterminator none hkind hvalid
  exact ⟨hterminator, hkind, hvalid, commands, read, hcommands, hread, hquoted,
    hsame none other hother rfl⟩

/-- An index is dropped by its schema and its name; the table that is given with it is not read. -/
theorem generate_dropIndex_without_table :
    let g : Generator := ⟨";", .postgres ⟨14, 0⟩ "public"⟩
    let op : Operation := .dropIndex ⟨some "app", "ix"⟩ (some "orders")
    Unquoted ";" ∧ op.NamesOnly ∧ op.validate = .ok () ∧ op.names = ["app", "ix", "orders"] ∧
      ∃ commands read, g.generate none [op] = .ok commands ∧ ReadAs commands read ∧
        read.map Sql.quotedTexts = [[(.identifier, "app"), (.identifier, "ix")]] ∧
        read.map Sql.quotedTexts ≠ [op.names.map (.identifier, ·)] := by
  intro g op
  have hterminator : Unquoted ";" := by decide
  have hkind : op.NamesOnly := trivial
  have hvalid : op.validate = .ok () := Operation.validate_eq_ok_iff.2 (by decide)
  have hg : g.dialect = .postgres ⟨14, 0⟩ "public" := rfl
  obtain ⟨commands, hcommands, hread⟩ := generate_bodies hg hterminator none hkind hvalid
  have hquoted : ((op.bodies ⟨14, 0⟩).map g.readBack).map Sql.quotedTexts =
      [[(.identifier, "app"), (.identifier, "ix")]] := by decide
  refine ⟨hterminator, hkind, hvalid, rfl, commands, _, hcommands, hread, hquoted, ?_⟩
  rw [hquoted]
  decide

end Generator

end SchemaDdl
