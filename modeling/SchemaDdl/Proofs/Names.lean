import SchemaDdl.Operation.Validity

/-!
# Names that can be written

Checking a name and quoting it succeeds exactly for valid names, and what a
valid operation names is valid.
-/

namespace SchemaDdl

namespace ObjectName

def Valid (object : ObjectName) : Prop :=
  Identifier.Valid object.name ∧ ∀ schema ∈ object.schema, Identifier.Valid schema

def quoted (object : ObjectName) : String :=
  match object.schema with
  | none => Identifier.quote object.name
  | some schema => Identifier.quote schema ++ "." ++ Identifier.quote object.name

theorem valid_of_name {name : String} : ({ name } : ObjectName).Valid ↔ Identifier.Valid name := by
  simp [Valid]

theorem delimit_eq_ok_iff {object : ObjectName} {text : String} :
    object.delimit = .ok text ↔ object.Valid ∧ text = object.quoted := by
  rw [delimit, Result.then_eq_ok_iff, Identifier.check_eq_ok_iff, Valid, quoted]
  cases object.schema with
  | none => simp [Result.pure_eq_ok_iff]
  | some schema =>
    rw [Result.then_eq_ok_iff, Identifier.check_eq_ok_iff, Result.pure_eq_ok_iff]
    simp [and_assoc]

theorem exists_delimit_iff {object : ObjectName} :
    (∃ text, object.delimit = .ok text) ↔ object.Valid := by
  simp [delimit_eq_ok_iff]

theorem isBlank_quoted (object : ObjectName) : Text.isBlank object.quoted = false := by
  rw [ObjectName.quoted]
  cases object.schema with
  | none => exact Text.isBlank_ofList_cons (by decide) _
  | some schema =>
    simp only [String.append_assoc]
    exact Text.isBlank_append_left (Text.isBlank_ofList_cons (by decide) _) _

end ObjectName

namespace Identifier

theorem delimit_eq_ok_iff {name text : String} :
    delimit name = .ok text ↔ Valid name ∧ text = quote name := by
  rw [delimit, ObjectName.delimit_eq_ok_iff, ObjectName.valid_of_name]
  rfl

theorem mapM_delimit_eq_ok_iff {names quoted : List String} :
    names.mapM delimit = .ok quoted ↔ (∀ name ∈ names, Valid name) ∧ quoted = names.map quote := by
  induction names generalizing quoted with
  | nil => simp [Result.pure_eq_ok_iff]
  | cons name names ih =>
    simp only [List.mapM_cons, Result.bind_eq_ok_iff, Result.pure_eq_ok_iff, delimit_eq_ok_iff, ih,
      List.forall_mem_cons, List.map_cons]
    constructor
    · rintro ⟨_, ⟨hfirst, rfl⟩, _, ⟨hrest, rfl⟩, rfl⟩
      exact ⟨⟨hfirst, hrest⟩, rfl⟩
    · rintro ⟨⟨hfirst, hrest⟩, rfl⟩
      exact ⟨_, ⟨hfirst, rfl⟩, _, ⟨hrest, rfl⟩, rfl⟩

theorem delimitList_eq_ok_iff {names : List String} {text : String} :
    delimitList names = .ok text ↔
      (∀ name ∈ names, Valid name) ∧ text = String.intercalate ", " (names.map quote) := by
  simp only [delimitList, Result.bind_eq_ok_iff, Result.pure_eq_ok_iff, mapM_delimit_eq_ok_iff]
  constructor
  · rintro ⟨_, ⟨hvalid, rfl⟩, rfl⟩
    exact ⟨hvalid, rfl⟩
  · rintro ⟨hvalid, rfl⟩
    exact ⟨_, ⟨hvalid, rfl⟩, rfl⟩

theorem exists_delimitList_iff {names : List String} :
    (∃ text, delimitList names = .ok text) ↔ ∀ name ∈ names, Valid name := by
  simp [delimitList_eq_ok_iff]

end Identifier

def KeyConstraint.Valid (key : KeyConstraint) : Prop :=
  (∀ name ∈ key.name, Identifier.Valid name) ∧ ∀ column ∈ key.columns, Identifier.Valid column

structure ForeignKey.Valid (key : ForeignKey) : Prop where
  name : ∀ name ∈ key.name, Identifier.Valid name
  columns : ∀ column ∈ key.columns, Identifier.Valid column
  principal : key.principal.Valid
  principalColumns : ∀ column ∈ key.principalColumns, Identifier.Valid column

namespace Requirement

variable {field : String}

theorem valid_of_name {value : String} (h : (name field value).Holds) : Identifier.Valid value :=
  (holds_name_iff.1 h).2

theorem valid_of_optional {value : Option String} (h : ∀ r ∈ optional field value, r.Holds) :
    ∀ name ∈ value, Identifier.Valid name := by
  rintro name rfl
  exact valid_of_name (h _ List.mem_cons_self)

theorem holds_optional_iff {value : Option String} :
    (∀ r ∈ optional field value, r.Holds) ↔
      ∀ n ∈ value, Text.isBlank n = false ∧ Identifier.Valid n := by
  cases value with
  | none => simp [optional]
  | some n => simp [optional, holds_name_iff]

theorem valid_of_columns {values : List String} (h : ∀ r ∈ columns field values, r.Holds) :
    ∀ column ∈ values, Identifier.Valid column := fun column hcolumn =>
  valid_of_name (h (name field column) (List.mem_cons_of_mem _ (List.mem_map_of_mem hcolumn)))

theorem valid_of_object {o : ObjectName} (h : ∀ r ∈ name field o.name :: schema o, r.Holds) :
    o.Valid :=
  have hparts := List.forall_mem_cons.1 h
  ⟨valid_of_name hparts.1, valid_of_optional hparts.2⟩

/-- A table and then one of its columns. -/
theorem valid_of_column {t : ObjectName} {column : String}
    (h : ∀ r ∈ table t ++ [name field column], r.Holds) : t.Valid ∧ Identifier.Valid column :=
  have hparts := List.forall_mem_append.1 h
  ⟨valid_of_object hparts.1, valid_of_name (List.forall_mem_singleton.1 hparts.2)⟩

theorem valid_of_key {fieldOfName : String} {key : KeyConstraint}
    (h : ∀ r ∈ optional fieldOfName key.name ++ columns field key.columns, r.Holds) :
    key.Valid :=
  have hparts := List.forall_mem_append.1 h
  ⟨valid_of_optional hparts.1, valid_of_columns hparts.2⟩

theorem valid_of_foreignKey {key : ForeignKey} (h : ∀ r ∈ foreignKey key, r.Holds) : key.Valid := by
  simp only [foreignKey, List.forall_mem_append, List.forall_mem_singleton] at h
  obtain ⟨⟨⟨⟨hname, hcolumns⟩, hprincipal⟩, hschema⟩, hprincipalColumns⟩ := h
  refine ⟨valid_of_optional hname, valid_of_columns hcolumns,
    ⟨valid_of_name hprincipal, valid_of_optional hschema⟩, ?_⟩
  split at hprincipalColumns
  · next hempty =>
    rw [List.isEmpty_iff.1 hempty]
    simp
  · exact valid_of_columns hprincipalColumns

end Requirement

end SchemaDdl
