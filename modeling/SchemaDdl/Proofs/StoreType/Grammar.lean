import SchemaDdl.Proofs.StoreType.Resolution
import SchemaDdl.Proofs.Text.Trim

/-!
# The grammar of store type names

A name is one of a built-in type, one of these with a size behind it, or one
of either kind marked as an array, before or behind it. White space may stand
between the parts. Resolution accepts these names and no others.
-/

namespace SchemaDdl

open Text

def Builtin.names (b : Builtin) : List String := b.name :: b.aliases

/-- The names of types that are no arrays, each with the type that it stands for. -/
inductive ScalarName : List Char → Descriptor → Prop where
  | builtin {b : Builtin} {name : String} (hb : b ∈ Builtin.all) (hname : name ∈ b.names) :
      ScalarName name.toList (.scalar b.name none b.style)
  | sized {b : Builtin} {base : String} {gap before sign digits after : List Char}
      (hb : b ∈ Builtin.all) (hname : base ∈ b.names) (hbase : base ∈ Builtin.sizable)
      (hgap : Spaces gap) (hbefore : Spaces before) (hsign : sign = [] ∨ sign = ['+'])
      (hne : digits ≠ []) (hdigits : digits.all Numeral.isDigit = true)
      (hpositive : 1 ≤ Numeral.value digits) (hlimit : Numeral.value digits ≤ 4294967295)
      (hafter : Spaces after) :
      ScalarName
        (base.toList ++ gap ++ '(' :: (before ++ (sign ++ digits ++ after) ++ [')']))
        (.scalar (b.name ++ "(" ++ Numeral.ofNat (Numeral.value digits) ++ ")")
          (some (Numeral.value digits)) b.style)

/-- The names of types, each with the type that it stands for. -/
inductive TypeName : List Char → Descriptor → Prop where
  | scalar {cs : List Char} {d : Descriptor} (h : ScalarName cs d) : TypeName cs d
  | marked {gap cs : List Char} {d : Descriptor} (hgap : Spaces gap) (h : ScalarName cs d) :
      TypeName ('_' :: (gap ++ cs)) (.array (d.storeType ++ "[]") none d)
  | bracketed {cs gap : List Char} {d : Descriptor} (h : ScalarName cs d)
      (hstart : cs.head? ≠ some '_') (hgap : Spaces gap) :
      TypeName (cs ++ gap ++ "[]".toList) (.array (d.storeType ++ "[]") none d)

/-! ## Built-in names -/

/-- The characters of built-in names. There is no `k` among them. -/
def isNameChar (c : Char) : Bool :=
  c = ' ' || Numeral.isDigit c || ('a' ≤ c && c ≤ 'z' && c ≠ 'k')

namespace Builtin

theorem names_all :
    ∀ b ∈ all, ∀ name ∈ b.names,
      name.toList.all isNameChar = true ∧ Trimmed name.toList ∧ name.toList ≠ [] := by
  decide +kernel

theorem pairwise_names : all.Pairwise fun b c => ∀ name ∈ b.names, name ∉ c.names := by
  decide +kernel

theorem not_mem_name {b : Builtin} {name : String} (hb : b ∈ all) (hname : name ∈ b.names)
    {c : Char} (hc : isNameChar c = false) : c ∉ name.toList := by
  intro hmem
  have hall := List.all_eq_true.1 (names_all b hb name hname).1 c hmem
  rw [hc] at hall
  cases hall

theorem mem_names_iff {b : Builtin} {name : String} :
    name ∈ b.names ↔ (decide (b.name = name) || b.aliases.contains name) = true := by
  rw [names, List.mem_cons, Bool.or_eq_true, decide_eq_true_eq, List.contains_iff_mem,
    eq_comm (a := name)]

theorem find?_of_pairwise {bs : List Builtin}
    (h : bs.Pairwise fun b c => ∀ name ∈ b.names, name ∉ c.names) {b : Builtin} {name : String}
    (hb : b ∈ bs) (hname : name ∈ b.names) :
    (bs.find? fun b => decide (b.name = name) || b.aliases.contains name) = some b := by
  -- Only the first entry that has the name is found, and no entry before `b` has it.
  induction bs with
  | nil => cases hb
  | cons first rest ih =>
    obtain ⟨hfirst, hrest⟩ := List.pairwise_cons.1 h
    rw [List.find?_cons]
    rcases List.mem_cons.1 hb with rfl | hb
    · rw [mem_names_iff.1 hname]
    · have hother : name ∉ first.names := fun hmem => hfirst b hb name hmem hname
      rw [mem_names_iff, Bool.not_eq_true] at hother
      rw [hother]
      exact ih hrest hb

theorem find?_eq_some_iff {name : String} {b : Builtin} :
    find? name = some b ↔ b ∈ all ∧ name ∈ b.names := by
  constructor
  · intro h
    rw [find?] at h
    have hfound := List.find?_some h
    exact ⟨List.mem_of_find?_eq_some h, mem_names_iff.2 hfound⟩
  · rintro ⟨hb, hname⟩
    exact find?_of_pairwise pairwise_names hb hname

end Builtin

theorem Descriptor.builtin?_eq_some_iff {name : String} {d : Descriptor} :
    builtin? name = some d ↔ ∃ b ∈ Builtin.all, name ∈ b.names ∧ b.descriptor = d := by
  simp only [builtin?, Option.map_eq_some_iff, Builtin.find?_eq_some_iff, and_assoc]

theorem Descriptor.beforeSize_eq_self {name : String} (h : '(' ∉ name.toList) :
    beforeSize name = name := by
  rw [beforeSize, splitFirst?_eq_none_iff.2 h]

/-- A canonical name holds no parenthesis, so a size is put behind the whole of it. -/
theorem Builtin.resize_descriptor {b : Builtin} (hb : b ∈ Builtin.all) (size : Nat) :
    b.descriptor.resize size =
      .scalar (b.name ++ "(" ++ Numeral.ofNat size ++ ")") (some size) b.style := by
  have hopen : '(' ∉ b.name.toList := not_mem_name hb List.mem_cons_self (by decide)
  rw [descriptor, Descriptor.resize, Descriptor.baseName, Descriptor.beforeSize_eq_self hopen,
    Descriptor.sizedName]

/-! ## Sizes -/

namespace Numeral

theorem isDigit_iff {c : Char} : isDigit c = true ↔ 48 ≤ c.toNat ∧ c.toNat ≤ 57 := by
  rw [isDigit, Bool.and_eq_true, decide_eq_true_eq, decide_eq_true_eq]
  exact Iff.rfl

theorem isSpace_of_isDigit {c : Char} (h : isDigit c = true) : isSpace c = false := by
  obtain ⟨hlow, hhigh⟩ := isDigit_iff.1 h
  exact isSpace_eq_false (by omega) (by omega)

theorem filter_readNat?_eq_some_iff {limit n : Nat} {digits : List Char} :
    (readNat? digits).filter (· ≤ limit) = some n ↔
      digits ≠ [] ∧ digits.all isDigit = true ∧ value digits = n ∧ n ≤ limit := by
  rw [Option.filter_eq_some_iff, decide_eq_true_eq, readNat?]
  split
  · next h => simp [h]
  · next h =>
    constructor
    · rintro ⟨hnone, -⟩
      cases hnone
    · rintro ⟨hne, hall, -⟩
      exact absurd ⟨hne, hall⟩ h

theorem readUpTo?_eq_some_iff {limit n : Nat} {cs : List Char} :
    readUpTo? limit cs = some n ↔
      ∃ sign digits, cs = sign ++ digits ∧ (sign = [] ∨ sign = ['+']) ∧
        digits ≠ [] ∧ digits.all isDigit = true ∧ value digits = n ∧ n ≤ limit := by
  unfold readUpTo?
  constructor
  · intro h
    split at h
    · next rest => exact ⟨['+'], rest, rfl, .inr rfl, filter_readNat?_eq_some_iff.1 h⟩
    · exact ⟨[], cs, rfl, .inl rfl, filter_readNat?_eq_some_iff.1 h⟩
  · rintro ⟨sign, digits, rfl, rfl | rfl, hdigits⟩
    · rw [List.nil_append]
      split
      -- Digits without a sign do not start with one.
      · next rest => exact absurd (List.all_eq_true.1 hdigits.2.1 '+' List.mem_cons_self) (by decide)
      · exact filter_readNat?_eq_some_iff.2 hdigits
    · exact filter_readNat?_eq_some_iff.2 hdigits

end Numeral

namespace StoreName

theorem trimmed_signed {sign digits : List Char} (hsign : sign = [] ∨ sign = ['+'])
    (hdigits : digits.all Numeral.isDigit = true) : Trimmed (sign ++ digits) := by
  refine trimmed_of_forall fun c hc => ?_
  rcases List.mem_append.1 hc with hc | hc
  · rcases hsign with rfl | rfl
    · cases hc
    · rw [List.mem_singleton.1 hc]
      decide
  · exact Numeral.isSpace_of_isDigit (List.all_eq_true.1 hdigits c hc)

theorem sized?_append {base gap before sign digits after : List Char} (hopen : '(' ∉ base)
    (hbase : Trimmed base) (hgap : Spaces gap) (hbefore : Spaces before)
    (hsign : sign = [] ∨ sign = ['+']) (hne : digits ≠ [])
    (hdigits : digits.all Numeral.isDigit = true) (hpositive : 1 ≤ Numeral.value digits)
    (hlimit : Numeral.value digits ≤ 4294967295) (hafter : Spaces after) :
    sized? (base ++ gap ++ '(' :: (before ++ (sign ++ digits ++ after) ++ [')'])) =
      some (String.ofList base, Numeral.value digits) := by
  have hgapOpen : '(' ∉ base ++ gap := by
    rw [List.mem_append, not_or]
    exact ⟨hopen, fun h => absurd (hgap _ h) (by decide)⟩
  have hstrip : stripEnd? ")".toList (before ++ (sign ++ digits ++ after) ++ [')']) =
      some (before ++ (sign ++ digits ++ after)) := stripEnd?_eq_some_iff.2 rfl
  have hread : Numeral.readUpTo? Numeral.word32Limit (sign ++ digits) =
      some (Numeral.value digits) :=
    Numeral.readUpTo?_eq_some_iff.2 ⟨sign, digits, rfl, hsign, hne, hdigits, rfl, hlimit⟩
  have hname : trimEnd (base ++ gap) = base := by
    rw [trimEnd_append_spaces base hgap, trimEnd_eq_self hbase.2]
  simp only [sized?, splitFirst?_append hgapOpen, Option.bind_eq_bind, Option.bind_some, hstrip,
    trim_spaces_around (trimmed_signed hsign hdigits) hbefore hafter, hread, hname]
  exact if_neg (Nat.ne_of_gt hpositive)

theorem eq_append_of_sized? {cs : List Char} {base : String} {size : Nat}
    (h : sized? cs = some (base, size)) :
    ∃ gap before sign digits after,
      cs = base.toList ++ gap ++ '(' :: (before ++ (sign ++ digits ++ after) ++ [')']) ∧
        Spaces gap ∧ Spaces before ∧ (sign = [] ∨ sign = ['+']) ∧ digits ≠ [] ∧
        digits.all Numeral.isDigit = true ∧ Numeral.value digits = size ∧ 1 ≤ size ∧
        size ≤ 4294967295 ∧ Spaces after := by
  simp only [sized?, Option.bind_eq_bind, Option.bind_eq_some_iff, Prod.exists] at h
  obtain ⟨name, rest, hsplit, inner, hstrip, n, hread, hsize⟩ := h
  split at hsize
  · cases hsize
  · next hpositive =>
    cases hsize
    obtain ⟨sign, digits, hinner, hsign, hne, hdigits, hvalue, hlimit⟩ :=
      Numeral.readUpTo?_eq_some_iff.1 hread
    obtain ⟨gap, hgap, hname⟩ := exists_eq_trimEnd name
    obtain ⟨before, after, hbefore, hafter, htrim⟩ := exists_eq_trim inner
    refine ⟨gap, before, sign, digits, after, ?_, hgap, hbefore, hsign, hne, hdigits, hvalue,
      Nat.pos_of_ne_zero hpositive, hlimit, hafter⟩
    rw [String.toList_ofList, ← hname, ← hinner, ← htrim, splitFirst?_eq_some hsplit,
      stripEnd?_eq_some_iff.1 hstrip]
    rfl

end StoreName

/-! ## Names that are no arrays -/

def isScalarChar (c : Char) : Bool :=
  isSpace c || isNameChar c || c = '(' || c = ')' || c = '+'

namespace ScalarName

theorem forall_isScalarChar {cs : List Char} {d : Descriptor} (h : ScalarName cs d) :
    ∀ c ∈ cs, isScalarChar c = true := by
  have hname {b : Builtin} {name : String} (hb : b ∈ Builtin.all) (hmem : name ∈ b.names) :
      ∀ c ∈ name.toList, isScalarChar c = true := by
    intro c hc
    simp [isScalarChar, List.all_eq_true.1 (Builtin.names_all b hb name hmem).1 c hc]
  have hspaces {blanks : List Char} (hblanks : Spaces blanks) :
      ∀ c ∈ blanks, isScalarChar c = true := by
    intro c hc
    simp [isScalarChar, hblanks c hc]
  cases h with
  | builtin hb hmem => exact hname hb hmem
  | sized hb hmem hbase hgap hbefore hsign hne hdigits hpositive hlimit hafter =>
    simp only [List.forall_mem_append, List.forall_mem_cons]
    refine ⟨⟨hname hb hmem, hspaces hgap⟩, rfl,
      ⟨hspaces hbefore, ⟨?_, ?_⟩, hspaces hafter⟩, rfl, List.forall_mem_nil _⟩
    · rcases hsign with rfl | rfl
      · exact fun c hc => nomatch hc
      · exact List.forall_mem_singleton.2 rfl
    · intro c hc
      simp [isScalarChar, isNameChar, List.all_eq_true.1 hdigits c hc]

theorem trimmed {cs : List Char} {d : Descriptor} (h : ScalarName cs d) :
    Trimmed cs ∧ cs ≠ [] := by
  cases h with
  | builtin hb hmem => exact (Builtin.names_all _ hb _ hmem).2
  | sized hb hmem =>
    obtain ⟨-, htrimmed, hne⟩ := Builtin.names_all _ hb _ hmem
    refine ⟨⟨?_, ?_⟩, by simp⟩
    · obtain ⟨c, rest, hcons⟩ := List.exists_cons_of_ne_nil hne
      rw [hcons] at htrimmed
      rw [hcons]
      exact htrimmed.1
    · rw [← List.cons_append, ← List.append_assoc, List.getLast?_concat]
      rintro c ⟨⟩
      decide

end ScalarName

namespace StoreName

theorem scalarName_of_sizedDescriptor? {cs : List Char} {d : Descriptor}
    (h : sizedDescriptor? cs = some d) : ScalarName cs d := by
  simp only [sizedDescriptor?, Option.bind_eq_bind, Option.bind_eq_some_iff, Prod.exists] at h
  obtain ⟨base, size, hparts, hfound⟩ := h
  split at hfound
  · next hbase =>
    obtain ⟨e, hbuiltin, rfl⟩ := Option.map_eq_some_iff.1 hfound
    obtain ⟨b, hb, hname, rfl⟩ := Descriptor.builtin?_eq_some_iff.1 hbuiltin
    obtain ⟨gap, before, sign, digits, after, rfl, hgap, hbefore, hsign, hne, hdigits, rfl,
      hpositive, hlimit, hafter⟩ := eq_append_of_sized? hparts
    rw [Builtin.resize_descriptor hb]
    exact .sized hb hname hbase hgap hbefore hsign hne hdigits hpositive hlimit hafter
  · cases hfound

theorem scalarDescriptor?_of_scalarName {cs : List Char} {d : Descriptor} (h : ScalarName cs d) :
    scalarDescriptor? cs = some d := by
  rw [scalarDescriptor?, Option.or_eq_some_iff]
  cases h with
  | builtin hb hname =>
    refine .inl (Descriptor.builtin?_eq_some_iff.2 ⟨_, hb, ?_, rfl⟩)
    rwa [String.ofList_toList]
  | sized hb hname hbase hgap hbefore hsign hne hdigits hpositive hlimit hafter =>
    refine .inr ⟨?_, ?_⟩
    · -- The parenthesis at the end is in no built-in name.
      refine Option.eq_none_iff_forall_ne_some.2 fun d hd => ?_
      obtain ⟨b', hb', hname', -⟩ := Descriptor.builtin?_eq_some_iff.1 hd
      have hclose := Builtin.not_mem_name hb' hname' (c := ')') (by decide)
      simp at hclose
    · obtain ⟨-, htrimmed, -⟩ := Builtin.names_all _ hb _ hname
      have hopen := Builtin.not_mem_name hb hname (c := '(') (by decide)
      rw [sizedDescriptor?, sized?_append hopen htrimmed hgap hbefore hsign hne hdigits hpositive
        hlimit hafter, String.ofList_toList, ← Builtin.resize_descriptor hb]
      simp only [Option.bind_eq_bind, Option.bind_some, if_pos hbase]
      rw [Descriptor.builtin?_eq_some_iff.2 ⟨_, hb, hname, rfl⟩, Option.map_some]

theorem scalarDescriptor?_eq_some_iff {cs : List Char} {d : Descriptor} :
    scalarDescriptor? cs = some d ↔ ScalarName cs d := by
  refine ⟨fun h => ?_, scalarDescriptor?_of_scalarName⟩
  rw [scalarDescriptor?, Option.or_eq_some_iff] at h
  rcases h with hbuiltin | ⟨-, hsized⟩
  · obtain ⟨b, hb, hname, rfl⟩ := Descriptor.builtin?_eq_some_iff.1 hbuiltin
    rw [← String.toList_ofList (l := cs)]
    exact .builtin hb hname
  · exact scalarName_of_sizedDescriptor? hsized

end StoreName

/-! ## All names -/

namespace StoreName

theorem isSpace_toLower (c : Char) : isSpace c.toLower = isSpace c := by
  by_cases h : c.val ≥ 'A'.val ∧ c.val ≤ 'Z'.val
  · have hupper : 65 ≤ c.toNat ∧ c.toNat ≤ 90 := h
    have hlower : c.toLower.toNat = c.toNat + 32 := by
      have hshifted : c.toLower.val = c.val + 32 := congrArg Char.val (dif_pos h)
      rw [Char.toNat, hshifted, UInt32.toNat_add]
      exact Nat.mod_eq_of_lt (Nat.lt_of_le_of_lt (Nat.add_le_add_right hupper.2 _) (by decide))
    rw [isSpace_eq_false (c := c) (by omega) (by omega)]
    exact isSpace_eq_false (by omega) (by omega)
  · exact congrArg isSpace (dif_neg h)

theorem trimmed_map_toLower_iff {cs : List Char} :
    Trimmed (cs.map Char.toLower) ↔ Trimmed cs := by
  have hend {c? : Option Char} : (∀ c ∈ c?.map Char.toLower, isSpace c = false) ↔
      ∀ c ∈ c?, isSpace c = false := by
    cases c? <;> simp [isSpace_toLower]
  rw [Trimmed, Trimmed, List.head?_map, List.getLast?_map, hend, hend]

theorem trimmed_key (name : String) : Trimmed (key name) :=
  trimmed_map_toLower_iff.2 (trimmed_trim name.toList)

theorem key_of_trimmed {name : String} (h : Trimmed name.toList) :
    key name = name.toList.map Char.toLower := by
  have htrim := trim_spaces_around h spaces_nil spaces_nil
  rw [List.nil_append, List.append_nil] at htrim
  rw [key, htrim]

/-- A mark before the element wins over one behind it. -/
theorem arrayElement?_eq_some_iff {cs element : List Char} :
    arrayElement? cs = some element ↔
      cs = '_' :: element ∨ cs.head? ≠ some '_' ∧ cs = element ++ "[]".toList := by
  unfold arrayElement?
  split
  · next rest => simp [eq_comm]
  · next hmark =>
    have hstart : cs.head? ≠ some '_' := by
      intro hhead
      obtain ⟨rest, hcs⟩ := List.head?_eq_some_iff.1 hhead
      exact hmark rest hcs
    rw [stripEnd?_eq_some_iff]
    constructor
    · exact fun h => .inr ⟨hstart, h⟩
    · rintro (h | ⟨-, h⟩)
      · exact absurd h (hmark element)
      · exact h

theorem scalarDescriptor?_eq_none {cs : List Char} {c : Char} (hc : c ∈ cs)
    (hother : isScalarChar c = false) : scalarDescriptor? cs = none := by
  refine Option.eq_none_iff_forall_ne_some.2 fun d hd => ?_
  have hall := (scalarDescriptor?_eq_some_iff.1 hd).forall_isScalarChar c hc
  rw [hother] at hall
  cases hall

theorem typeName_of_arrayDescriptor? {cs : List Char} (hcs : Trimmed cs) {d : Descriptor}
    (h : arrayDescriptor? cs = some d) : TypeName cs d := by
  obtain ⟨element, helement, hfound⟩ := Option.bind_eq_some_iff.1 h
  obtain ⟨e, hscalar, rfl⟩ := Option.map_eq_some_iff.1 hfound
  have hname := scalarDescriptor?_eq_some_iff.1 hscalar
  obtain ⟨before, after, hbefore, hafter, htrim⟩ := exists_eq_trim element
  -- The element is trimmed once more, but a key has white space at neither end.
  rcases arrayElement?_eq_some_iff.1 helement with rfl | ⟨hstart, rfl⟩
  · have hnone : after = [] := by
      rw [htrim, ← List.append_assoc, ← List.cons_append] at hcs
      exact hcs.trailing_eq_nil hafter
    rw [htrim, hnone, List.append_nil]
    exact .marked hbefore hname
  · have hnone : before = [] := by
      rw [htrim, List.append_assoc] at hcs
      exact hcs.leading_eq_nil hbefore
    rw [htrim, hnone, List.nil_append] at hstart ⊢
    refine .bracketed hname ?_ hafter
    intro hhead
    rw [List.append_assoc, List.head?_append, hhead] at hstart
    exact hstart rfl

theorem descriptor?_of_typeName {cs : List Char} {d : Descriptor} (h : TypeName cs d) :
    descriptor? cs = some d := by
  rw [descriptor?, Option.or_eq_some_iff]
  cases h with
  | scalar h => exact .inl (scalarDescriptor?_eq_some_iff.2 h)
  | marked hgap h =>
    refine .inr ⟨scalarDescriptor?_eq_none List.mem_cons_self (by decide), ?_⟩
    rw [arrayDescriptor?, arrayElement?_eq_some_iff.2 (.inl rfl), Option.bind_some]
    have htrim := trim_spaces_around h.trimmed.1 hgap spaces_nil
    rw [List.append_nil] at htrim
    rw [htrim, scalarDescriptor?_eq_some_iff.2 h, Option.map_some, Descriptor.arrayOf]
  | @bracketed cs gap _ h hstart hgap =>
    refine .inr ⟨scalarDescriptor?_eq_none (c := ']') (by simp) (by decide), ?_⟩
    obtain ⟨htrimmed, hne⟩ := h.trimmed
    have hfirst : (cs ++ gap ++ "[]".toList).head? ≠ some '_' := by
      obtain ⟨c, rest, rfl⟩ := List.exists_cons_of_ne_nil hne
      exact hstart
    have htrim := trim_spaces_around htrimmed spaces_nil hgap
    rw [List.nil_append] at htrim
    rw [arrayDescriptor?, arrayElement?_eq_some_iff.2 (.inr ⟨hfirst, rfl⟩), Option.bind_some,
      htrim, scalarDescriptor?_eq_some_iff.2 h, Option.map_some, Descriptor.arrayOf]

/-- Exactly the names of the grammar are found, with the types that they stand for. -/
theorem descriptor?_eq_some_iff {cs : List Char} (hcs : Trimmed cs) {d : Descriptor} :
    descriptor? cs = some d ↔ TypeName cs d := by
  refine ⟨fun h => ?_, descriptor?_of_typeName⟩
  rw [descriptor?, Option.or_eq_some_iff] at h
  rcases h with hscalar | ⟨-, harray⟩
  · exact .scalar (scalarDescriptor?_eq_some_iff.1 hscalar)
  · exact typeName_of_arrayDescriptor? hcs harray

end StoreName

/-- A name has a type exactly when its key is in the grammar, whatever was asked before. -/
theorem Memo.find_storeName_eq_some_iff (asked : List TypeQuery) (name : String)
    (d : Descriptor) :
    ((after asked).find { storeName := some name }).1 = some d ↔
      TypeName (StoreName.key name) d := by
  obtain ⟨hfound, -⟩ := answers_find (sound_after asked) { storeName := some name }
  rw [hfound, ← StoreName.descriptor?_eq_some_iff (StoreName.trimmed_key name)]
  simp [TypeQuery.resolve]

/-! ## Letters beyond ASCII

Keys leave them as they are. Every other way to put them in lower case accepts
the same names, since none of these letters becomes one that a name can hold.
-/

def isTypeChar (c : Char) : Bool :=
  isScalarChar c || c = '_' || c = '[' || c = ']'

/-- The second text is the first one in lower case. A letter beyond ASCII may have any form that
holds a character which is in no name, as all of them do: the Kelvin sign becomes a `k`, and a
dotted capital `I` keeps its dot. -/
inductive LowerCased : List Char → List Char → Prop where
  | nil : LowerCased [] []
  | plain {c : Char} {cs lower : List Char} (hc : c.toNat < 128 ∨ isSpace c = true)
      (h : LowerCased cs lower) : LowerCased (c :: cs) (c.toLower :: lower)
  | other {c d : Char} {cs form lower : List Char} (hc : 128 ≤ c.toNat ∧ isSpace c = false)
      (hd : d ∈ form) (hform : isTypeChar d = false) (h : LowerCased cs lower) :
      LowerCased (c :: cs) (form ++ lower)

namespace StoreName

theorem toNat_lt_of_isTypeChar {c : Char} (h : isTypeChar c = true) (hspace : isSpace c = false) :
    c.toNat < 128 := by
  have hletter (hc : c ≤ 'z') : c.toNat < 128 := Nat.lt_of_le_of_lt hc (by decide)
  have hdigit (hc : Numeral.isDigit c = true) : c.toNat < 128 :=
    Nat.lt_of_le_of_lt (Numeral.isDigit_iff.1 hc).2 (by decide)
  simp only [isTypeChar, isScalarChar, isNameChar, hspace, Bool.false_or, Bool.or_eq_true,
    Bool.and_eq_true, decide_eq_true_eq] at h
  -- Letters and digits are small by their order; all other characters are given one by one.
  rcases h with (((((((rfl | hc) | ⟨⟨-, hc⟩, -⟩) | rfl) | rfl) | rfl) | rfl) | rfl) | rfl
  all_goals first | exact hdigit hc | exact hletter hc | decide

theorem forall_isTypeChar {cs : List Char} {d : Descriptor} (h : descriptor? cs = some d) :
    ∀ c ∈ cs, isTypeChar c = true := by
  have hscalar {cs : List Char} {d : Descriptor} (h : scalarDescriptor? cs = some d) :
      ∀ c ∈ cs, isTypeChar c = true := by
    intro c hc
    simp [isTypeChar, (scalarDescriptor?_eq_some_iff.1 h).forall_isScalarChar c hc]
  have hspaces {blanks : List Char} (hblanks : Spaces blanks) :
      ∀ c ∈ blanks, isTypeChar c = true := by
    intro c hc
    simp [isTypeChar, isScalarChar, hblanks c hc]
  rw [descriptor?, Option.or_eq_some_iff] at h
  rcases h with h | ⟨-, harray⟩
  · exact hscalar h
  · obtain ⟨element, helement, hfound⟩ := Option.bind_eq_some_iff.1 harray
    obtain ⟨e, h, -⟩ := Option.map_eq_some_iff.1 hfound
    obtain ⟨before, after, hbefore, hafter, htrim⟩ := exists_eq_trim element
    have hall : ∀ c ∈ element, isTypeChar c = true := by
      rw [htrim]
      simp only [List.forall_mem_append]
      exact ⟨hspaces hbefore, hscalar h, hspaces hafter⟩
    rcases arrayElement?_eq_some_iff.1 helement with rfl | ⟨-, rfl⟩
    · exact List.forall_mem_cons.2 ⟨by decide, hall⟩
    · exact List.forall_mem_append.2 ⟨hall, List.all_eq_true.1 rfl⟩

theorem descriptor?_eq_none {cs : List Char} {c : Char} (hc : c ∈ cs)
    (hother : isTypeChar c = false) : descriptor? cs = none := by
  refine Option.eq_none_iff_forall_ne_some.2 fun d hd => ?_
  have hall := forall_isTypeChar hd c hc
  rw [hother] at hall
  cases hall

theorem eq_or_exists_of_lowerCased {cs lower : List Char} (h : LowerCased cs lower) :
    lower = cs.map Char.toLower ∨
      (∃ c ∈ lower, isTypeChar c = false) ∧ ∃ c ∈ cs.map Char.toLower, isTypeChar c = false := by
  induction h with
  | nil => exact .inl rfl
  | @plain c cs lower hc h ih =>
    rcases ih with heq | ⟨⟨a, ha, hlower⟩, b, hb, hcs⟩
    · exact .inl (congrArg (c.toLower :: ·) heq)
    · exact .inr ⟨⟨a, List.mem_cons_of_mem _ ha, hlower⟩, b, List.mem_cons_of_mem _ hb, hcs⟩
  | @other c d cs form lower hc hd hform h ih =>
    have hself : c.toLower = c := by
      refine dif_neg fun hupper => ?_
      have hle : c.toNat ≤ 90 := hupper.2
      omega
    have hother : isTypeChar c = false := by
      refine Bool.eq_false_iff.2 fun htrue => ?_
      have hlt := toNat_lt_of_isTypeChar htrue hc.2
      omega
    refine .inr ⟨⟨d, List.mem_append_left _ hd, hform⟩, c.toLower, List.mem_cons_self, ?_⟩
    rwa [hself]

theorem descriptor?_eq_of_lowerCased {cs lower : List Char} (h : LowerCased cs lower) :
    descriptor? lower = descriptor? (cs.map Char.toLower) := by
  rcases eq_or_exists_of_lowerCased h with rfl | ⟨⟨a, ha, hlower⟩, b, hb, hcs⟩
  · rfl
  · rw [descriptor?_eq_none ha hlower, descriptor?_eq_none hb hcs]

end StoreName

end SchemaDdl
