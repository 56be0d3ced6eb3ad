import Mathlib.Data.List.Basic
import SchemaDdl.Proofs.Quoting.Names

/-!
# Reading names back

The pieces of a statement are read from the front: words that have to be there,
and names with points between them. What was written as the name of an object
is read as this object, whatever characters the name is made of.
-/

namespace SchemaDdl

open Sql Sql.Fragment

/-- The object that names in a row stand for: the last one is its own, one before it its schema. -/
def ObjectName.ofNames? : List String → Option ObjectName
  | [name] => some { name }
  | [schema, name] => some ⟨some schema, name⟩
  | _ => none

namespace Sql

def skip? (s : String) (read : List Piece) : Option (List Piece) :=
  read.dropPrefix? (s.toList.map .plain)

/-- The names at the beginning, with points between them, and what follows the last one. -/
def names? : List Piece → Option (List String × List Piece)
  | .quoted .identifier name :: .plain '.' :: rest =>
    (names? rest).map fun (names, rest) => (name :: names, rest)
  | .quoted .identifier name :: rest => some ([name], rest)
  | _ => none

def quoted? (kind : Quoted) : List Piece → Option (String × List Piece)
  | .quoted other text :: rest => if other = kind then some (text, rest) else none
  | _ => none

def object? (read : List Piece) : Option (ObjectName × List Piece) := do
  let (names, rest) ← names? read
  let object ← ObjectName.ofNames? names
  pure (object, rest)

def column? (read : List Piece) : Option ((ObjectName × String) × List Piece) := do
  let (names, rest) ← names? read
  let column ← names.getLast?
  let table ← ObjectName.ofNames? names.dropLast
  pure ((table, column), rest)

def readObject? (s : String) : Option ObjectName :=
  match (lex? s).bind object? with
  | some (object, []) => some object
  | _ => none

namespace Fragment

def dotted : List String → List Fragment
  | [] => []
  | [name] => [identifier name]
  | name :: rest => identifier name :: words "." :: dotted rest

theorem dotted_cons {names : List String} (hne : names ≠ []) (name : String) :
    dotted (name :: names) = identifier name :: words "." :: dotted names := by
  cases names with
  | nil => exact absurd rfl hne
  | cons next rest => rfl

theorem parted_dotted (names : List String) : Parted (dotted names) := by
  induction names with
  | nil => exact .nil
  | cons name rest ih =>
    by_cases hne : rest = []
    · rw [hne]
      exact .last _ _
    · have hpoint : "." ≠ "" ∧ Unquoted "." := by decide
      rw [dotted_cons hne]
      exact .quoted _ _ (.words hpoint ih)

/-- What follows a name must not go on with a point, which would join another name to it. -/
def EndsName (rest : List Fragment) : Prop :=
  (rest.flatMap pieces).head? ≠ some (.plain '.')

theorem endsName_nil : EndsName [] := by simp [EndsName]

theorem endsName_words {s : String} (h : s.toList.head?.any (· ≠ '.') = true)
    (rest : List Fragment) : EndsName (words s :: rest) := by
  rw [EndsName, List.flatMap_cons, pieces]
  cases hs : s.toList with
  | nil => simp [hs] at h
  | cons c cs => simpa [hs] using h

end Fragment

variable {rest : List Fragment}

theorem skip?_words (s : String) (rest : List Fragment) :
    skip? s ((words s :: rest).flatMap pieces) = some (rest.flatMap pieces) :=
  List.dropPrefix?_append_of_beq _ (beq_self_eq_true _)

/-- Words that differ before either ends are not taken for each other. -/
theorem skip?_other {s t : String} (h : ¬s.toList <+: t.toList ∧ ¬t.toList <+: s.toList)
    (rest : List Fragment) : skip? s ((words t :: rest).flatMap pieces) = none := by
  rw [skip?, Option.eq_none_iff_forall_ne_some]
  intro after hafter
  obtain ⟨start, hstart, hbeq⟩ := List.dropPrefix?_eq_some_iff.1 hafter
  rw [eq_of_beq hbeq, List.flatMap_cons, pieces] at hstart
  have hinjective : Function.Injective Piece.plain := fun _ _ => Piece.plain.inj
  rcases List.append_eq_append_iff.1 hstart with ⟨more, hmore, -⟩ | ⟨more, hmore, -⟩
  · exact h.2 ((List.prefix_map_iff_of_injective hinjective).1 ⟨more, hmore.symm⟩)
  · exact h.1 ((List.prefix_map_iff_of_injective hinjective).1 ⟨more, hmore.symm⟩)

theorem quoted?_quoted (kind : Quoted) (text : String) (rest : List Fragment) :
    quoted? kind ((quoted kind text :: rest).flatMap pieces) = some (text, rest.flatMap pieces) :=
  if_pos rfl

theorem quoted?_identifier (name : String) (rest : List Fragment) :
    quoted? .identifier ((identifier name :: rest).flatMap pieces) =
      some (name, rest.flatMap pieces) :=
  quoted?_quoted .identifier name rest

theorem names?_identifier (name : String) (h : EndsName rest) :
    names? ((identifier name :: rest).flatMap pieces) = some ([name], rest.flatMap pieces) := by
  rw [List.flatMap_cons, identifier, pieces, List.singleton_append, names?]
  intro after hafter
  rw [EndsName, hafter] at h
  exact h rfl

theorem names?_dotted {names : List String} (hne : names ≠ []) (h : EndsName rest) :
    names? ((dotted names ++ rest).flatMap pieces) = some (names, rest.flatMap pieces) := by
  induction names with
  | nil => exact absurd rfl hne
  | cons name names ih =>
    by_cases hlast : names = []
    · rw [hlast]
      exact names?_identifier name h
    · have hpieces : (dotted (name :: names) ++ rest).flatMap pieces =
          .quoted .identifier name :: .plain '.' :: (dotted names ++ rest).flatMap pieces := by
        rw [dotted_cons hlast]
        rfl
      rw [hpieces, names?, ih hlast]
      rfl

end Sql

namespace ObjectName

theorem ofNames?_names (object : ObjectName) : ofNames? object.names = some object := by
  rw [names]
  cases object with
  | mk schema name => cases schema <;> rfl

theorem fragments_eq_dotted (object : ObjectName) : object.fragments = dotted object.names := by
  rw [fragments, names]
  cases object.schema <;> rfl

theorem names_ne_nil (object : ObjectName) : object.names ≠ [] := by simp [names]

end ObjectName

namespace Sql

variable {rest : List Fragment}

theorem object?_fragments (object : ObjectName) (h : EndsName rest) :
    object? ((object.fragments ++ rest).flatMap pieces) = some (object, rest.flatMap pieces) := by
  rw [object?, object.fragments_eq_dotted, names?_dotted object.names_ne_nil h]
  simp [object.ofNames?_names]

theorem column?_dotted (table : ObjectName) (column : String) (h : EndsName rest) :
    column? ((dotted (table.names ++ [column]) ++ rest).flatMap pieces) =
      some ((table, column), rest.flatMap pieces) := by
  rw [column?, names?_dotted (by simp) h]
  simp [table.ofNames?_names]

theorem readObject?_quoted (object : ObjectName) : readObject? object.quoted = some object := by
  have hread := object?_fragments object endsName_nil
  rw [List.append_nil] at hread
  rw [readObject?, ← object.render_fragments, object.parted_fragments.lex?_render,
    Option.bind_some, hread]
  rfl

theorem render_dotted_column (table : ObjectName) (column : String) :
    render (dotted (table.names ++ [column])) = table.quoted ++ "." ++ Identifier.quote column := by
  rw [ObjectName.names, ObjectName.quoted]
  cases table.schema <;> simp [dotted, render_cons, String.append_assoc]

end Sql

end SchemaDdl
