import SchemaDdl.Proofs.StoreType.Integers
import SchemaDdl.Proofs.StoreType.LogicalDepth

/-!
# Canonical names

A type can be asked for under many names, but it is written under one. That
name is in the grammar as well and stands for the same type, so what was
written is read back. A size beside a logical type leads to the same names as
a size in parentheses, unless it is zero.
-/

namespace SchemaDdl

open Text

namespace Builtin

def sizableNames : List String :=
  ["character varying", "character", "bit", "bit varying"]

/-- A type that can carry a size behind one of its names can carry it behind its canonical one. -/
theorem name_mem_sizableNames :
    ∀ b ∈ all, ∀ name ∈ b.names, name ∈ sizable → b.name ∈ sizableNames := by
  decide

theorem mem_sizable_of_mem_sizableNames : ∀ name ∈ sizableNames, name ∈ sizable := by decide

theorem name_mem_sizable {b : Builtin} {name : String} (hb : b ∈ all) (hname : name ∈ b.names)
    (hsizable : name ∈ sizable) : b.name ∈ sizable :=
  mem_sizable_of_mem_sizableNames _ (name_mem_sizableNames b hb name hname hsizable)

theorem scalarName_sizedName {b : Builtin} (hb : b ∈ all) (hsizable : b.name ∈ sizable)
    {size : Nat} (hpositive : 1 ≤ size) (hlimit : size ≤ Numeral.word32Limit) :
    ScalarName (Descriptor.sizedName b.name size).toList
      (.scalar (Descriptor.sizedName b.name size) (some size) b.style) := by
  have hvalue := Numeral.value_digits size
  have hname : (Descriptor.sizedName b.name size).toList =
      b.name.toList ++ [] ++ '(' :: ([] ++ ([] ++ Numeral.digits size ++ []) ++ [')']) := by
    simp [Descriptor.sizedName, Numeral.ofNat]
  have hsized : ScalarName
      (b.name.toList ++ [] ++ '(' :: ([] ++ ([] ++ Numeral.digits size ++ []) ++ [')']))
      (.scalar (Descriptor.sizedName b.name (Numeral.value (Numeral.digits size)))
        (some (Numeral.value (Numeral.digits size))) b.style) :=
    .sized hb List.mem_cons_self hsizable spaces_nil spaces_nil (.inl rfl)
      (Numeral.digits_ne_nil size) (Numeral.all_isDigit_digits size) (by rwa [hvalue])
      (by rwa [hvalue]) spaces_nil
  rw [hvalue, ← hname] at hsized
  exact hsized

end Builtin

/-! ## Names that are their own canonical names -/

theorem ScalarName.canonical {cs : List Char} {d : Descriptor} (h : ScalarName cs d) :
    ScalarName d.storeType.toList d := by
  cases h with
  | builtin hb hname => exact .builtin hb List.mem_cons_self
  | sized hb hname hbase hgap hbefore hsign hne hdigits hpositive hlimit hafter =>
    have hsizable := Builtin.name_mem_sizable hb hname hbase
    exact Builtin.scalarName_sizedName hb hsizable hpositive hlimit

theorem ScalarName.bracketed {cs : List Char} {d : Descriptor} (h : ScalarName cs d) :
    TypeName (cs ++ "[]".toList) (.array (d.storeType ++ "[]") none d) := by
  have hstart : cs.head? ≠ some '_' := by
    intro hhead
    have hmark := h.forall_isScalarChar '_' (List.mem_of_mem_head? hhead)
    exact absurd hmark (by decide)
  have hname := TypeName.bracketed h hstart spaces_nil
  rwa [List.append_nil] at hname

theorem ScalarName.canonical_arrayOf {cs : List Char} {d : Descriptor} (h : ScalarName cs d) :
    TypeName d.arrayOf.storeType.toList d.arrayOf := by
  have hname : d.arrayOf.storeType.toList = d.storeType.toList ++ "[]".toList :=
    String.toList_append
  rw [hname]
  exact h.canonical.bracketed

theorem TypeName.canonical {cs : List Char} {d : Descriptor} (h : TypeName cs d) :
    TypeName d.storeType.toList d := by
  cases h with
  | scalar h => exact .scalar h.canonical
  | marked hgap h => exact h.canonical_arrayOf
  | bracketed h hstart hgap => exact h.canonical_arrayOf

theorem ScalarType.storeName_mem_sizable {t : ScalarType} {size : Nat}
    (h : t.fixedSize? = some size) : t.storeName ∈ Builtin.sizable := by
  cases t
  case char => decide
  all_goals cases h

theorem ScalarType.exists_scalarName {t : ScalarType} {d : Descriptor}
    (h : t.descriptor? = some d) : ∃ cs, ScalarName cs d := by
  obtain ⟨base, hbase, rfl⟩ := Option.map_eq_some_iff.1 h
  obtain ⟨b, hb, hname, rfl⟩ := Descriptor.builtin?_eq_some_iff.1 hbase
  cases hsize : t.fixedSize? with
  | none => exact ⟨_, .builtin hb hname⟩
  | some size =>
    have hsizable := Builtin.name_mem_sizable hb hname (ScalarType.storeName_mem_sizable hsize)
    have hone : size = 1 := by
      cases t
      case char => exact (Option.some.inj hsize).symm
      all_goals cases hsize
    have hcanonical := Builtin.scalarName_sizedName hb hsizable (Nat.le_refl 1) (by decide)
    rw [hone]
    simp only [Builtin.resize_descriptor hb]
    exact ⟨_, hcanonical⟩

theorem LogicalType.exists_typeName {t : LogicalType} {d : Descriptor}
    (h : t.descriptor? = some d) : ∃ cs, TypeName cs d := by
  have harray {element : LogicalType} {d : Descriptor}
      (ih : ∀ {e}, element.descriptor? = some e → ∃ cs, TypeName cs e)
      (h : arrayDescriptor? element.descriptor? = some d) : ∃ cs, TypeName cs d := by
    obtain ⟨e, he, hscalar, rfl⟩ := arrayDescriptor?_eq_some_iff.1 h
    obtain ⟨cs, hname⟩ := ih he
    cases hname with
    | scalar hname => exact ⟨_, hname.canonical_arrayOf⟩
    | marked => cases hscalar
    | bracketed => cases hscalar
  induction t generalizing d with
  | scalar t =>
    obtain ⟨cs, hname⟩ := ScalarType.exists_scalarName h
    exact ⟨cs, .scalar hname⟩
  | array element ih => exact harray ih h
  | list element ih => exact harray ih h

/-! ## Canonical names are found -/

theorem toLower_of_isTypeChar {c : Char} (h : isTypeChar c = true) : c.toLower = c := by
  simp only [isTypeChar, isScalarChar, Bool.or_eq_true, decide_eq_true_eq] at h
  rcases h with ((((((hspace | hname) | rfl) | rfl) | rfl) | rfl) | rfl) | rfl
  · refine dif_neg fun hupper => ?_
    have hlow : 65 ≤ c.toNat := hupper.1
    have hhigh : c.toNat ≤ 90 := hupper.2
    rw [isSpace_eq_false (by omega) (by omega)] at hspace
    cases hspace
  · exact toLower_of_isNameChar hname
  all_goals decide

theorem TypeName.trimmed {cs : List Char} {d : Descriptor} (h : TypeName cs d) : Trimmed cs := by
  cases h with
  | scalar h => exact h.trimmed.1
  | @marked gap cs d hgap h =>
    obtain ⟨⟨-, hlast⟩, hne⟩ := h.trimmed
    have hend : ('_' :: (gap ++ cs)).getLast? = cs.getLast? := by
      rw [← List.cons_append, List.getLast?_append, List.getLast?_eq_some_getLast hne,
        Option.some_or]
    refine ⟨?_, by rwa [hend]⟩
    rintro c ⟨⟩
    decide
  | @bracketed cs gap d h hstart hgap =>
    obtain ⟨⟨hfirst, -⟩, hne⟩ := h.trimmed
    have hbegin : (cs ++ gap ++ "[]".toList).head? = cs.head? := by
      rw [List.append_assoc, List.head?_append, List.head?_eq_some_head hne, Option.some_or]
    refine ⟨by rwa [hbegin], ?_⟩
    have hend : (cs ++ gap ++ "[]".toList).getLast? = some ']' := by
      rw [List.getLast?_append]
      rfl
    rw [hend]
    rintro c ⟨⟩
    decide

namespace StoreName

/-- A name of the grammar is its own key. -/
theorem key_of_typeName {name : String} {d : Descriptor} (h : TypeName name.toList d) :
    key name = name.toList := by
  have htrimmed := h.trimmed
  have hfound := (descriptor?_eq_some_iff htrimmed).2 h
  have hchars := forall_isTypeChar hfound
  calc
    key name = name.toList.map Char.toLower := key_of_trimmed htrimmed
    _ = name.toList.map id := List.map_congr_left fun c hc => toLower_of_isTypeChar (hchars c hc)
    _ = name.toList := List.map_id _

theorem descriptor?_key_of_typeName {name : String} {d : Descriptor} (h : TypeName name.toList d) :
    descriptor? (key name) = some d := by
  rw [key_of_typeName h]
  exact (descriptor?_eq_some_iff h.trimmed).2 h

end StoreName

theorem TypeQuery.exists_typeName {q : TypeQuery} (hsize : q.logical = none ∨ q.size = none)
    {d : Descriptor} (h : q.resolve = some d) : ∃ cs, TypeName cs d := by
  rcases Option.or_eq_some_iff.1 h with hname | ⟨-, hlogical⟩
  · obtain ⟨name, -, hd⟩ := Option.bind_eq_some_iff.1 hname
    exact ⟨_, (StoreName.descriptor?_eq_some_iff (StoreName.trimmed_key name)).1 hd⟩
  · obtain ⟨t, ht, hd⟩ := Option.bind_eq_some_iff.1 hlogical
    rcases hsize with hnone | hnone
    · rw [hnone] at ht
      cases ht
    · rw [hnone, Option.bind_none, Option.none_or] at hd
      exact LogicalType.exists_typeName hd

namespace Memo

/-- What a name or a logical type without a size stands for is found again under its canonical
name, whatever was asked before and in between. -/
theorem find_storeType_of_find (asked askedThen : List TypeQuery) {q : TypeQuery}
    (hsize : q.logical = none ∨ q.size = none) {d : Descriptor}
    (h : ((after asked).find q).1 = some d) :
    ((after askedThen).find { storeName := some d.storeType }).1 = some d := by
  obtain ⟨hfound, -⟩ := answers_find (sound_after asked) q
  have hresolve : q.resolve = some d := hfound.symm.trans h
  obtain ⟨cs, hname⟩ := TypeQuery.exists_typeName hsize hresolve
  rw [find_storeName]
  exact StoreName.descriptor?_key_of_typeName hname.canonical

/-- The mark before the name, the blanks and the leading zeros are gone from the canonical name. -/
theorem find_storeType_of_find_marked :
    let d : Descriptor := .array "character varying(7)[]" none
      (.scalar "character varying(7)" (some 7) .plain)
    let q : TypeQuery := { storeName := some " _VarChar ( +007 ) " }
    ((after []).find q).1 = some d ∧
      ((after [q]).find { storeName := some d.storeType }).1 = some d := by
  intro d q
  have hfound : ((after []).find q).1 = some d := by decide +kernel
  have hagain := find_storeType_of_find [] [q] (.inl rfl) hfound
  exact ⟨hfound, hagain⟩

end Memo

/-! ## Sizes beside a logical type -/

namespace Builtin

theorem exists_sizable : ∀ name ∈ sizableNames, ∃ b ∈ all, b.name = name := by decide

theorem descriptor?_zero :
    ∀ name ∈ sizableNames, StoreName.descriptor? (StoreName.key (Descriptor.sizedName name 0)) =
      none := by
  decide +kernel

end Builtin

namespace StoreName

theorem descriptor?_key_sizedName {b : Builtin} (hb : b ∈ Builtin.all)
    (hsizable : b.name ∈ Builtin.sizableNames) {size : Nat} (hlimit : size ≤ Numeral.word32Limit) :
    descriptor? (key (Descriptor.sizedName b.name size)) =
      if size = 0 then none else some (b.descriptor.resize size) := by
  by_cases hzero : size = 0
  · rw [if_pos hzero, hzero]
    exact Builtin.descriptor?_zero b.name hsizable
  · have hmem := Builtin.mem_sizable_of_mem_sizableNames b.name hsizable
    have hname := Builtin.scalarName_sizedName hb hmem (Nat.pos_of_ne_zero hzero) hlimit
    rw [if_neg hzero, Builtin.resize_descriptor hb]
    exact descriptor?_key_of_typeName (.scalar hname)

end StoreName

namespace Memo

theorem sizedLogical?_string (size : Nat) (fixedLength : Bool) :
    sizedLogical? (.scalar .string) size fixedLength =
      (Descriptor.builtin? (if fixedLength then "character" else "character varying")).map
        fun d => d.resize size := by
  simp [sizedLogical?, LogicalType.isTextLike]

theorem sizedLogical?_bitVec (size : Nat) (fixedLength : Bool) :
    sizedLogical? (.scalar .bitVec) size fixedLength =
      (Descriptor.builtin? (if fixedLength then "bit" else "bit varying")).map
        fun d => d.resize size := by
  simp [sizedLogical?, LogicalType.isTextLike, LogicalType.isBitVectorLike]

/-- A size beside a logical type is the same as one in the name of its type. -/
theorem find_sized (asked askedThen : List TypeQuery) {t : LogicalType} {size : Nat}
    {fixedLength : Bool} {base : String} (hbase : base ∈ Builtin.sizableNames)
    (ht : sizedLogical? t size fixedLength =
      (Descriptor.builtin? base).map fun d => d.resize size)
    (hlimit : size ≤ Numeral.word32Limit) :
    ∃ d, ((after asked).find { logical := some t, size := some size, fixedLength }).1 = some d ∧
      ((after askedThen).find { storeName := some (Descriptor.sizedName base size) }).1 =
        if size = 0 then none else some d := by
  obtain ⟨b, hb, rfl⟩ := Builtin.exists_sizable base hbase
  have hbuiltin : Descriptor.builtin? b.name = some b.descriptor :=
    Descriptor.builtin?_eq_some_iff.2 ⟨b, hb, List.mem_cons_self, rfl⟩
  refine ⟨b.descriptor.resize size, ?_, ?_⟩
  · obtain ⟨hfound, -⟩ := answers_find (sound_after asked)
      { logical := some t, size := some size, fixedLength }
    rw [hfound]
    simp [TypeQuery.resolve, ht, hbuiltin]
  · rw [find_storeName]
    exact StoreName.descriptor?_key_sizedName hb hbase hlimit

/-- A text or a bit vector with a size is stored, and the type has the name with that size in
parentheses. A size of zero is the exception: there is such a type, but none of that name. -/
theorem find_sized_logical (asked askedThen : List TypeQuery) (size : UInt32)
    (fixedLength : Bool) :
    let beside (t : ScalarType) : Option Descriptor :=
      ((after asked).find
        { logical := some (.scalar t), size := some size.toNat, fixedLength }).1
    let behind (base : String) : Option Descriptor :=
      ((after askedThen).find
        { storeName := some (base ++ "(" ++ Numeral.ofNat size.toNat ++ ")") }).1
    (∃ d, beside .string = some d ∧
      behind (if fixedLength then "character" else "character varying") =
        if size = 0 then none else some d) ∧
    ∃ d, beside .bitVec = some d ∧
      behind (if fixedLength then "bit" else "bit varying") =
        if size = 0 then none else some d := by
  have hlimit : size.toNat ≤ Numeral.word32Limit := Nat.le_of_lt_succ size.toNat_lt
  have hzero : size = 0 ↔ size.toNat = 0 := UInt32.toNat_inj.symm
  simp only [hzero]
  constructor
  · refine find_sized asked askedThen ?_ (sizedLogical?_string size.toNat fixedLength) hlimit
    cases fixedLength <;> decide
  · refine find_sized asked askedThen ?_ (sizedLogical?_bitVec size.toNat fixedLength) hlimit
    cases fixedLength <;> decide

/-- A text of no characters has a type whose name is found nowhere. -/
theorem find_sized_zero :
    (empty.find { logical := some (.scalar .string), size := some 0 }).1 =
        some (.scalar "character varying(0)" (some 0) .plain) ∧
      (empty.find { storeName := some "character varying(0)" }).1 = none := by
  decide +kernel

end Memo

end SchemaDdl
