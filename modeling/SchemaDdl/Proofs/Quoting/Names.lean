import SchemaDdl.Proofs.Quoting.Lexer
import SchemaDdl.Proofs.Script.Commands
import SchemaDdl.Statement.Constraint
import SchemaDdl.Statement.Database

/-!
# Names and clauses as fragments

What the parts of statements write, told apart into words and names. The words
do not depend on the names.
-/

namespace SchemaDdl

open Render Sql Sql.Fragment

namespace Sql.Fragment

def identifier (name : String) : Fragment := .quoted .identifier name

@[simp] theorem sql_identifier (n : String) : (identifier n).sql = Identifier.quote n := rfl

@[simp] theorem sql_words (s : String) : (words s).sql = s := rfl

@[simp] theorem sql_literal (s : String) : (quoted .literal s).sql = Value.quote s := rfl

@[simp] theorem map_identifier (f : String → String) (n : String) :
    (identifier n).map f = identifier (f n) := rfl

@[simp] theorem map_words (f : String → String) (s : String) : (words s).map f = words s := rfl

@[simp] theorem texts_nil : texts [] = [] := rfl

@[simp] theorem texts_words (s : String) (rest : List Fragment) :
    texts (words s :: rest) = texts rest := rfl

@[simp] theorem texts_identifier (n : String) (rest : List Fragment) :
    texts (identifier n :: rest) = (.identifier, n) :: texts rest := rfl

@[simp] theorem render_nil : render [] = "" := rfl

def listed : List String → List Fragment
  | [] => []
  | [n] => [identifier n]
  | n :: rest => identifier n :: words ", " :: listed rest

theorem render_listed (names : List String) :
    render (listed names) = String.intercalate ", " (names.map Identifier.quote) := by
  induction names with
  | nil => rfl
  | cons n rest ih =>
    cases rest with
    | nil => simp [listed, render_cons]
    | cons next rest =>
      rw [listed, render_cons, render_cons, ih]
      · simp [String.append_assoc]
      · simp

theorem parted_listed (names : List String) : Parted (listed names) := by
  induction names with
  | nil => exact .nil
  | cons n rest ih =>
    cases rest with
    | nil => exact .last _ _
    | cons next rest =>
      have hcomma : ", " ≠ "" ∧ Unquoted ", " := by decide
      exact .quoted _ _ (.words hcomma ih)

theorem listed_map (f : String → String) (names : List String) :
    listed (names.map f) = (listed names).map (Fragment.map f) := by
  induction names with
  | nil => rfl
  | cons n rest ih =>
    cases rest with
    | nil => rfl
    | cons next rest => exact congrArg (identifier (f n) :: words ", " :: ·) ih

@[simp] theorem texts_listed (names : List String) :
    texts (listed names) = names.map (.identifier, ·) := by
  induction names with
  | nil => rfl
  | cons n rest ih =>
    cases rest with
    | nil => rfl
    | cons next rest => exact congrArg ((.identifier, n) :: ·) ih

end Sql.Fragment

namespace ObjectName

def fragments (object : ObjectName) : List Fragment :=
  match object.schema with
  | none => [identifier object.name]
  | some schema => [identifier schema, words ".", identifier object.name]

def map (f : String → String) (object : ObjectName) : ObjectName :=
  ⟨object.schema.map f, f object.name⟩

theorem render_fragments (object : ObjectName) : render object.fragments = object.quoted := by
  rw [fragments, quoted]
  cases object.schema with
  | none => simp [render_cons]
  | some schema => simp [render_cons, String.append_assoc]

theorem parted_fragments (object : ObjectName) : Parted object.fragments := by
  rw [fragments]
  cases object.schema with
  | none => exact .last _ _
  | some schema =>
    have hpoint : "." ≠ "" ∧ Unquoted "." := by decide
    exact .quoted _ _ (.words hpoint (.last _ _))

theorem fragments_map (f : String → String) (object : ObjectName) :
    (object.map f).fragments = object.fragments.map (Fragment.map f) := by
  rw [fragments, fragments, map]
  cases object.schema <;> rfl

def names (object : ObjectName) : List String := object.schema.toList ++ [object.name]

@[simp] theorem texts_fragments (object : ObjectName) :
    texts object.fragments = object.names.map (.identifier, ·) := by
  rw [fragments, names]
  cases object.schema <;> rfl

end ObjectName

/-! ## Clauses -/

def Statement.constraintFragments : Option String → List Fragment
  | none => []
  | some n => [words "CONSTRAINT ", identifier n, words " "]

def Statement.namedFragments (keyword : String) : Option String → List Fragment
  | none => []
  | some n => [words (" " ++ keyword ++ " "), identifier n]

namespace KeyConstraint

def fragments (keyword : String) (key : KeyConstraint) : List Fragment :=
  Statement.constraintFragments key.name ++ words keyword :: words " (" ::
    (listed key.columns ++ [words ")"])

def map (f : String → String) (key : KeyConstraint) : KeyConstraint :=
  ⟨key.name.map f, key.columns.map f⟩

def names (key : KeyConstraint) : List String := key.name.toList ++ key.columns

theorem fragments_map (f : String → String) (keyword : String) (key : KeyConstraint) :
    (key.map f).fragments keyword = (key.fragments keyword).map (Fragment.map f) := by
  rw [fragments, fragments, map]
  cases key.name <;> simp [Statement.constraintFragments, listed_map]

@[simp] theorem texts_fragments (keyword : String) (key : KeyConstraint) :
    texts (key.fragments keyword) = key.names.map (.identifier, ·) := by
  rw [fragments, names]
  cases key.name <;> simp [Statement.constraintFragments]

theorem parted_fragments {keyword : String} (h : keyword ≠ "" ∧ Unquoted keyword)
    (key : KeyConstraint) : Parted (key.fragments keyword) := by
  have hcolumns : Parted (words keyword :: words " (" :: (listed key.columns ++ [words ")"])) :=
    .words h (.words (by decide) ((parted_listed key.columns).append (.words (by decide) .nil)))
  rw [fragments]
  cases key.name with
  | none => exact hcolumns
  | some n => exact .words (by decide) (.quoted _ _ (.words (by decide) hcolumns))

end KeyConstraint

namespace ForeignKey

def principalFragments (key : ForeignKey) : List Fragment :=
  if key.principalColumns = [] then []
  else words " (" :: (listed key.principalColumns ++ [words ")"])

def actionFragments (event : String) (action : ReferentialAction) : List Fragment :=
  if action = .noAction then [] else [words (" ON " ++ event ++ " " ++ action.sql)]

def fragments (key : ForeignKey) : List Fragment :=
  Statement.constraintFragments key.name ++ words "FOREIGN KEY (" ::
    (listed key.columns ++ words ") REFERENCES " ::
      (key.principal.fragments ++ (key.principalFragments ++
        (actionFragments "UPDATE" key.onUpdate ++ actionFragments "DELETE" key.onDelete))))

def map (f : String → String) (key : ForeignKey) : ForeignKey :=
  { key with
    name := key.name.map f
    columns := key.columns.map f
    principal := key.principal.map f
    principalColumns := key.principalColumns.map f }

def names (key : ForeignKey) : List String :=
  key.name.toList ++ key.columns ++ key.principal.names ++ key.principalColumns

theorem fragments_map (f : String → String) (key : ForeignKey) :
    (key.map f).fragments = key.fragments.map (Fragment.map f) := by
  have haction (event : String) (action : ReferentialAction) :
      (actionFragments event action).map (Fragment.map f) = actionFragments event action := by
    rw [actionFragments]
    split <;> rfl
  have hprincipal :
      (key.map f).principalFragments = key.principalFragments.map (Fragment.map f) := by
    rw [principalFragments, principalFragments, map]
    simp only [List.map_eq_nil_iff]
    split
    · rfl
    · simp [listed_map]
  rw [fragments, fragments, hprincipal]
  simp only [List.map_append, List.map_cons, haction, map_words, map, listed_map,
    ObjectName.fragments_map]
  cases key.name <;> rfl

@[simp] theorem texts_fragments (key : ForeignKey) :
    texts key.fragments = key.names.map (.identifier, ·) := by
  have haction (event : String) (action : ReferentialAction) :
      texts (actionFragments event action) = [] := by
    rw [actionFragments]
    split <;> rfl
  have hprincipal : texts key.principalFragments = key.principalColumns.map (.identifier, ·) := by
    rw [principalFragments]
    split
    · next hempty => simp [hempty]
    · simp
  rw [fragments, names]
  cases key.name <;> simp [Statement.constraintFragments, haction, hprincipal]

theorem follows_principalFragments (key : ForeignKey) : Follows key.principalFragments := by
  rw [principalFragments]
  split
  · exact .nil
  · exact .words (by decide) ((parted_listed _).append (.words (by decide) .nil))

theorem follows_actionFragments {event : String} (h : Unquoted event)
    (action : ReferentialAction) : Follows (actionFragments event action) := by
  have haction : Unquoted action.sql := by cases action <;> decide
  rw [actionFragments]
  split
  · exact .nil
  · refine .words ⟨?_, ?_⟩ .nil
    · simp [String.append_eq_empty_iff]
    · exact (((by decide : Unquoted " ON ").append h).append (by decide)).append haction

theorem parted_fragments (key : ForeignKey) : Parted key.fragments := by
  have hprincipal : Parted (key.principal.fragments ++ (key.principalFragments ++
      (actionFragments "UPDATE" key.onUpdate ++ actionFragments "DELETE" key.onDelete))) :=
    key.principal.parted_fragments.append (key.follows_principalFragments.append
      ((follows_actionFragments (by decide) _).append (follows_actionFragments (by decide) _)))
  have hcolumns := Parted.words (by decide : "FOREIGN KEY (" ≠ "" ∧ Unquoted "FOREIGN KEY (")
    ((parted_listed key.columns).append
      (.words (by decide : ") REFERENCES " ≠ "" ∧ Unquoted ") REFERENCES ") hprincipal))
  rw [fragments]
  cases key.name with
  | none => exact hcolumns
  | some n => exact .words (by decide) (.quoted _ _ (.words (by decide) hcolumns))

end ForeignKey

namespace Statement

theorem writes_appendColumns {columns : List String}
    (h : ∀ column ∈ columns, Identifier.Valid column) :
    (appendColumns columns).Writes () (render (listed columns)) := by
  have hparts := (writes_ofResult (Identifier.delimitList_eq_ok_iff.2 ⟨h, rfl⟩)).then
    (writes_append (String.intercalate ", " (columns.map Identifier.quote)))
  rw [render_listed]
  rwa [String.empty_append] at hparts

theorem writes_constraintName {constraint : Option String}
    (h : ∀ n ∈ constraint, Identifier.Valid n) :
    (constraintName constraint).Writes () (render (constraintFragments constraint)) := by
  cases constraint with
  | none => exact writes_pure ()
  | some n =>
    refine Writes.congr (Writes.then (writes_append _)
      (Writes.then (writes_appendName (ObjectName.valid_of_name.2 (h n rfl)))
        (writes_append _))) ?_
    simp [constraintFragments, render_cons, ObjectName.quoted]

theorem writes_keyClause (keyword : String) {key : KeyConstraint} (h : key.Valid) :
    (keyClause keyword key).Writes () (render (key.fragments keyword)) := by
  refine Writes.congr (Writes.then (writes_constraintName h.1) (Writes.then (writes_append _)
    (Writes.then (writes_append _) (Writes.then (writes_appendColumns h.2)
      (writes_append _))))) ?_
  simp [KeyConstraint.fragments, render_append, render_cons]

theorem writes_foreignKeyClause {key : ForeignKey} (h : key.Valid) :
    (foreignKeyClause key).Writes () (render key.fragments) := by
  have haction (event : String) (action : ReferentialAction) :
      (actionClause event action).Writes () (render (ForeignKey.actionFragments event action)) := by
    refine Writes.congr (writes_onlyIf fun _ => writes_append _) ?_
    rw [ForeignKey.actionFragments]
    by_cases hnone : action = .noAction <;> simp [render_cons, hnone]
  have hprincipal : render key.principalFragments =
      if key.principalColumns ≠ [] then " (" ++ (render (listed key.principalColumns) ++ ")")
      else "" := by
    rw [ForeignKey.principalFragments]
    split <;> simp [render_append, render_cons, *]
  refine Writes.congr (Writes.then (writes_constraintName h.name)
    (Writes.then (writes_append _)
    (Writes.then (writes_appendColumns h.columns)
    (Writes.then (writes_append _)
    (Writes.then (writes_appendName h.principal)
    (Writes.then (writes_onlyIf fun _ => Writes.then (writes_append _)
      (Writes.then (writes_appendColumns h.principalColumns) (writes_append _)))
    (Writes.then (haction _ _) (haction _ _)))))))) ?_
  rw [ForeignKey.fragments]
  simp only [render_append, render_cons, sql_words, hprincipal, ObjectName.render_fragments]

theorem writes_namedClause (keyword : String) {n : Option String}
    (h : ∀ name ∈ n, Identifier.Valid name) :
    (namedClause keyword n).Writes () (render (namedFragments keyword n)) := by
  cases n with
  | none => exact writes_pure ()
  | some n =>
    refine Writes.congr (Writes.then (writes_append _)
      (writes_appendName (ObjectName.valid_of_name.2 (h n rfl)))) ?_
    simp [namedFragments, render_cons, ObjectName.quoted]

end Statement

end SchemaDdl
