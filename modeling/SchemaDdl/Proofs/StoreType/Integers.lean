import SchemaDdl.Proofs.StoreType.Grammar

/-!
# Integer types

Whether a name is one of an integer type, and of which width, is also decided
without resolution, by the names themselves. Both agree on every name that has
no white space around it; resolution passes over that and finds more.
-/

namespace SchemaDdl

open Text

inductive IntegerWidth where
  | small | regular | big
  deriving DecidableEq, Repr

namespace IntegerWidth

/-- The width that an integer type has under one of its names, in any case. -/
def ofStoreType? (storeType : String) : Option IntegerWidth :=
  match storeType.map Char.toLower with
  | "smallint" | "int2" => some small
  | "integer" | "int" | "int4" => some regular
  | "bigint" | "int8" => some big
  | _ => none

def storeType : IntegerWidth → String
  | small => "smallint"
  | regular => "integer"
  | big => "bigint"

def serialType : IntegerWidth → String
  | small => "smallserial"
  | regular => "serial"
  | big => "bigserial"

def names : IntegerWidth → List String
  | small => ["smallint", "int2"]
  | regular => ["integer", "int", "int4"]
  | big => ["bigint", "int8"]

theorem ofStoreType?_eq_some_iff {name : String} {width : IntegerWidth} :
    ofStoreType? name = some width ↔ name.map Char.toLower ∈ width.names := by
  unfold ofStoreType?
  constructor
  · intro h
    split at h
    all_goals cases h
    all_goals next hname => simp [names, hname]
  · intro h
    cases width
    all_goals simp only [names, List.mem_cons, List.not_mem_nil, or_false] at h
    case small => rcases h with h | h <;> simp [h]
    case regular => rcases h with h | h | h <;> simp [h]
    case big => rcases h with h | h <;> simp [h]

theorem isSome_ofStoreType? (name : String) :
    (ofStoreType? name).isSome = isIntegerStoreType name := by
  unfold ofStoreType? isIntegerStoreType
  split <;> simp_all

theorem trimmed_of_mem_names {width : IntegerWidth} :
    ∀ name ∈ width.names, Trimmed name.toList ∧ '(' ∉ name.toList := by
  cases width <;> decide

variable (width : IntegerWidth)

theorem names_of_builtin : ∀ b ∈ Builtin.all, b.name = width.storeType → b.names = width.names := by
  cases width <;> decide

theorem exists_builtin : ∃ b ∈ Builtin.all, b.name = width.storeType := by
  cases width <;> decide

theorem canonical_of_builtin :
    ∀ b ∈ Builtin.all, b.name ∈ width.names → b.name = width.storeType := by
  cases width <;> decide

theorem isIntegerStoreType_storeType : isIntegerStoreType width.storeType = true := by
  cases width <;> decide +kernel

end IntegerWidth

/-! ## Integer types that are found -/

theorem toLower_of_isNameChar {c : Char} (h : isNameChar c = true) : c.toLower = c := by
  refine dif_neg fun hupper => ?_
  have hlow : 65 ≤ c.toNat := hupper.1
  have hhigh : c.toNat ≤ 90 := hupper.2
  simp only [isNameChar, Bool.or_eq_true, Bool.and_eq_true, decide_eq_true_eq,
    Numeral.isDigit_iff] at h
  rcases h with (rfl | ⟨-, hdigit⟩) | ⟨⟨hletter, -⟩, -⟩
  · exact absurd hlow (by decide)
  · omega
  · have hletter : 97 ≤ c.toNat := hletter
    omega

theorem Builtin.map_toLower_name {b : Builtin} (hb : b ∈ all) :
    b.name.map Char.toLower = b.name := by
  have hchars := List.all_eq_true.1 (names_all b hb b.name List.mem_cons_self).1
  have hself : b.name.toList.map Char.toLower = b.name.toList :=
    (List.map_congr_left fun c hc => toLower_of_isNameChar (hchars c hc)).trans (List.map_id _)
  refine String.toList_injective ?_
  rw [String.toList_map, hself]

theorem isIntegerStoreType_sized (base : String) (size : Nat) :
    isIntegerStoreType (Descriptor.sizedName base size) = false := by
  refine Bool.eq_false_iff.2 fun h => ?_
  rw [← IntegerWidth.isSome_ofStoreType?] at h
  obtain ⟨width, hwidth⟩ := Option.isSome_iff_exists.1 h
  have hmem := IntegerWidth.ofStoreType?_eq_some_iff.1 hwidth
  have hopen : '(' ∈ ((Descriptor.sizedName base size).map Char.toLower).toList := by
    rw [String.toList_map]
    exact List.mem_map.2 ⟨'(', by simp [Descriptor.sizedName], rfl⟩
  exact (IntegerWidth.trimmed_of_mem_names _ hmem).2 hopen

theorem TypeName.exists_width {cs : List Char} {d : Descriptor} (h : TypeName cs d)
    (hinteger : d.isInteger = true) :
    ∃ width : IntegerWidth, d.storeType = width.storeType ∧ String.ofList cs ∈ width.names := by
  cases h with
  | scalar h =>
    cases h with
    | @builtin b name hb hname =>
      rw [Descriptor.isInteger, ← IntegerWidth.isSome_ofStoreType?] at hinteger
      obtain ⟨width, hwidth⟩ := Option.isSome_iff_exists.1 hinteger
      have hmem := IntegerWidth.ofStoreType?_eq_some_iff.1 hwidth
      rw [Builtin.map_toLower_name hb] at hmem
      have hcanonical := width.canonical_of_builtin b hb hmem
      refine ⟨width, hcanonical, ?_⟩
      rwa [String.ofList_toList, ← width.names_of_builtin b hb hcanonical]
    | @sized b base gap before sign digits after =>
      have hsized := isIntegerStoreType_sized b.name (Numeral.value digits)
      exact absurd (hsized.symm.trans hinteger) Bool.false_ne_true
  | marked => cases hinteger
  | bracketed => cases hinteger

namespace StoreName

theorem exists_integer_iff {cs : List Char} (hcs : Trimmed cs) {width : IntegerWidth} :
    (∃ d, descriptor? cs = some d ∧ d.isInteger = true ∧ d.storeType = width.storeType) ↔
      String.ofList cs ∈ width.names := by
  constructor
  · rintro ⟨d, hd, hinteger, hname⟩
    obtain ⟨other, hother, hmem⟩ :=
      ((descriptor?_eq_some_iff hcs).1 hd).exists_width hinteger
    have hsame : width.storeType = other.storeType := hname.symm.trans hother
    cases width <;> cases other <;> first | exact hmem | exact absurd hsame (by decide)
  · intro hmem
    obtain ⟨b, hb, hname⟩ := width.exists_builtin
    rw [← width.names_of_builtin b hb hname] at hmem
    have hfound : TypeName (String.ofList cs).toList b.descriptor := .scalar (.builtin hb hmem)
    rw [String.toList_ofList] at hfound
    refine ⟨b.descriptor, (descriptor?_eq_some_iff hcs).2 hfound, ?_, hname⟩
    have hinteger := width.isIntegerStoreType_storeType
    rwa [← hname] at hinteger

end StoreName

/-- A name is one of an integer type by itself exactly if it is one by resolution and has no white
space around it. -/
theorem IntegerWidth.ofStoreType?_eq_some_iff_found {name : String} {width : IntegerWidth} :
    ofStoreType? name = some width ↔
      (∃ d, StoreName.descriptor? (StoreName.key name) = some d ∧ d.isInteger = true ∧
        d.storeType = width.storeType) ∧ Trimmed name.toList := by
  have hlower : (name.map Char.toLower).toList = name.toList.map Char.toLower :=
    String.toList_map
  rw [StoreName.exists_integer_iff (StoreName.trimmed_key name), ofStoreType?_eq_some_iff]
  constructor
  · intro h
    have htrimmed := (trimmed_of_mem_names _ h).1
    rw [hlower, StoreName.trimmed_map_toLower_iff] at htrimmed
    refine ⟨?_, htrimmed⟩
    rwa [StoreName.key_of_trimmed htrimmed, ← hlower, String.ofList_toList]
  · rintro ⟨h, htrimmed⟩
    rwa [StoreName.key_of_trimmed htrimmed, ← hlower, String.ofList_toList] at h

end SchemaDdl
