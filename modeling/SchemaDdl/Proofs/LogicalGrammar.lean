import SchemaDdl.Proofs.StoreType.Grammar

/-!
# The grammar of logical types

A logical type is written as the name of a scalar, as an element with `[]`
behind it, or as an element between `list<` and `>`. White space may stand
around each of the three, and so around each layer. Reading accepts these texts
and no others, and what a type is written as is one of them.
-/

namespace SchemaDdl

open Text

/-- The texts of logical types, each with the type that it stands for. -/
inductive LogicalName : List Char → LogicalType → Prop where
  | scalar {before cs after : List Char} {t : ScalarType} (hbefore : Spaces before)
      (hname : cs.map Char.toLower = t.name.toList) (hafter : Spaces after) :
      LogicalName (before ++ (cs ++ after)) (.scalar t)
  | array {before element after : List Char} {t : LogicalType} (hbefore : Spaces before)
      (h : LogicalName element t) (hafter : Spaces after) :
      LogicalName (before ++ (element ++ "[]".toList ++ after)) (.array t)
  | list {before element after : List Char} {t : LogicalType} (hbefore : Spaces before)
      (h : LogicalName element t) (hafter : Spaces after) :
      LogicalName (before ++ ("list<".toList ++ element ++ ">".toList ++ after)) (.list t)

/-! ## Names of scalars -/

namespace ScalarType

theorem names_all : ∀ t ∈ all,
    t.name.toList.map Char.toLower = t.name.toList ∧ Trimmed t.name.toList ∧
      ']' ∉ t.name.toList ∧ '>' ∉ t.name.toList := by
  decide

theorem name_injective {t u : ScalarType} (h : t.name = u.name) : t = u := by
  have hall : ∀ t ∈ all, ∀ u ∈ all, t.name = u.name → t = u := by decide
  exact hall t (mem_all t) u (mem_all u) h

theorem ofName?_eq_some_iff {cs : List Char} {t : ScalarType} :
    ofName? cs = some t ↔ cs.map Char.toLower = t.name.toList := by
  have hlower : t.name = String.ofList (cs.map Char.toLower) ↔
      cs.map Char.toLower = t.name.toList := by
    rw [← String.toList_inj, String.toList_ofList, eq_comm]
  rw [ofName?, ← hlower]
  constructor
  · intro h
    simpa using List.find?_some h
  · intro h
    cases hfound : all.find? fun u => u.name = String.ofList (cs.map Char.toLower) with
    | none => exact absurd h (by simpa using List.find?_eq_none.1 hfound t (mem_all t))
    | some u =>
      have hu : u.name = String.ofList (cs.map Char.toLower) := by simpa using List.find?_some hfound
      rw [name_injective (hu.trans h.symm)]

end ScalarType

namespace LogicalType

/-! ## One layer -/

/-- Only what trimming leaves of a text counts. -/
theorem read_eq (cs : List Char) :
    read cs =
      match stripEnd? "[]".toList (trim cs) with
      | some element => (read element).map array
      | none =>
        match listElement? (trim cs) with
        | some element => (read element).map list
        | none =>
          match ScalarType.ofName? (trim cs) with
          | some t => .ok (scalar t)
          | none =>
            .error (.config ("unknown logical type '" ++ String.ofList (trim cs) ++ "'")) := by
  rw [read]
  split
  · next element h => simp only [h]
  · next h =>
    simp only [h]
    split
    · next element h => simp only [h]
    · next h => cases ScalarType.ofName? (trim cs) <;> simp only [h]

theorem read_congr {cs ds : List Char} (h : trim cs = trim ds) : read cs = read ds := by
  rw [read_eq, read_eq, h]

theorem listElement?_eq_some_iff {cs element : List Char} :
    listElement? cs = some element ↔ cs = "list<".toList ++ element ++ ">".toList := by
  simp only [listElement?, Option.bind_eq_some_iff, stripStart?_eq_some_iff,
    stripEnd?_eq_some_iff]
  constructor
  · rintro ⟨rest, rfl, rfl⟩
    exact (List.append_assoc ..).symm
  · rintro rfl
    exact ⟨_, List.append_assoc .., rfl⟩

theorem read_of_array {cs element : List Char} (h : trim cs = element ++ "[]".toList) :
    read cs = (read element).map array := by
  rw [read_eq, stripEnd?_eq_some_iff.2 h]

theorem read_of_list {cs element : List Char}
    (h : trim cs = "list<".toList ++ element ++ ">".toList) :
    read cs = (read element).map list := by
  have harray : stripEnd? "[]".toList (trim cs) = none := by
    refine Option.eq_none_iff_forall_ne_some.2 fun rest hrest => ?_
    have hends : ("list<".toList ++ element) ++ [">".toList.getLast (by decide)] =
        (rest ++ ['[']) ++ [']'] := by
      rw [List.append_assoc rest]
      exact h.symm.trans (stripEnd?_eq_some_iff.1 hrest)
    exact absurd (List.append_inj_right' hends rfl) (by decide)
  rw [read_eq, harray, listElement?_eq_some_iff.2 h]

theorem read_of_scalar {cs : List Char} {t : ScalarType}
    (h : (trim cs).map Char.toLower = t.name.toList) : read cs = .ok (scalar t) := by
  obtain ⟨-, -, hbracket, hangle⟩ := ScalarType.names_all t (ScalarType.mem_all t)
  have harray : stripEnd? "[]".toList (trim cs) = none := by
    refine Option.eq_none_iff_forall_ne_some.2 fun rest hrest => hbracket ?_
    rw [← h, stripEnd?_eq_some_iff.1 hrest]
    simp
  have hlist : listElement? (trim cs) = none := by
    refine Option.eq_none_iff_forall_ne_some.2 fun rest hrest => hangle ?_
    rw [← h, listElement?_eq_some_iff.1 hrest]
    simp
  rw [read_eq, harray, hlist, ScalarType.ofName?_eq_some_iff.2 h]

/-! ## All layers -/

/-- White space at the start of the element goes with the white space before it. -/
theorem trim_array {before after : List Char} (hbefore : Spaces before) (element : List Char)
    (hafter : Spaces after) :
    trim (before ++ (element ++ "[]".toList ++ after)) = trimStart element ++ "[]".toList := by
  have hstart : trimStart (element ++ "[]".toList ++ after) =
      trimStart element ++ "[]".toList ++ after := by
    rw [trimStart, List.append_assoc, List.dropWhile_append]
    split
    · next hempty =>
      rw [trimStart, List.isEmpty_iff.1 hempty]
      rfl
    · rw [List.append_assoc]
      rfl
  rw [trim, trimStart_spaces_append hbefore, hstart, trimEnd_append_spaces _ hafter,
    trimEnd_eq_self (by simp; decide)]

theorem read_of_logicalName {cs : List Char} {t : LogicalType} (h : LogicalName cs t) :
    read cs = .ok t := by
  induction h with
  | @scalar before cs after t hbefore hname hafter =>
    obtain ⟨-, htrimmed, -⟩ := ScalarType.names_all t (ScalarType.mem_all t)
    rw [← hname, StoreName.trimmed_map_toLower_iff] at htrimmed
    apply read_of_scalar
    rwa [trim_spaces_around htrimmed hbefore hafter]
  | @array before element after t hbefore h hafter ih =>
    have htrim : trim (trimStart element) = trim element := by
      obtain ⟨blanks, hblanks, heq⟩ := exists_eq_trimStart element
      rw [trim, trim, ← trimStart_spaces_append hblanks, ← heq]
    rw [read_of_array (trim_array hbefore element hafter), read_congr htrim, ih]
    rfl
  | @list before element after t hbefore h hafter ih =>
    have htrimmed : Trimmed ("list<".toList ++ element ++ ">".toList) := by
      constructor
      · rintro c ⟨⟩
        decide
      · rw [List.getLast?_append]
        rintro c ⟨⟩
        decide
    rw [read_of_list (trim_spaces_around htrimmed hbefore hafter), ih]
    rfl

theorem map_eq_ok_iff {result : Result LogicalType} {layer : LogicalType → LogicalType}
    {t : LogicalType} : result.map layer = .ok t ↔ ∃ u, result = .ok u ∧ layer u = t := by
  cases result <;> simp [Except.map]

theorem logicalName_of_read {cs : List Char} {t : LogicalType} (h : read cs = .ok t) :
    LogicalName cs t := by
  obtain ⟨before, after, hbefore, hafter, hcs⟩ := exists_eq_trim cs
  induction cs using read.induct generalizing t before after with
  | case1 cs element harray ih =>
    have htrim := stripEnd?_eq_some_iff.1 harray
    rw [read_of_array htrim] at h
    obtain ⟨u, hu, rfl⟩ := map_eq_ok_iff.1 h
    obtain ⟨inner, outer, hinner, houter, helement⟩ := exists_eq_trim element
    rw [hcs, htrim]
    exact .array hbefore (ih hu inner outer hinner houter helement) hafter
  | case2 cs harray element hlist ih =>
    have htrim := listElement?_eq_some_iff.1 hlist
    rw [read_of_list htrim] at h
    obtain ⟨u, hu, rfl⟩ := map_eq_ok_iff.1 h
    obtain ⟨inner, outer, hinner, houter, helement⟩ := exists_eq_trim element
    rw [hcs, htrim]
    exact .list hbefore (ih hu inner outer hinner houter helement) hafter
  | case3 cs harray hlist u hname =>
    rw [read_eq, harray, hlist, hname] at h
    cases h
    rw [hcs]
    exact .scalar hbefore (ScalarType.ofName?_eq_some_iff.1 hname) hafter
  | case4 cs harray hlist hname =>
    rw [read_eq, harray, hlist, hname] at h
    cases h

theorem read_eq_ok_iff {cs : List Char} {t : LogicalType} :
    read cs = .ok t ↔ LogicalName cs t :=
  ⟨logicalName_of_read, read_of_logicalName⟩

theorem logicalName_text (t : LogicalType) : LogicalName t.text.toList t := by
  induction t with
  | scalar t =>
    have h := LogicalName.scalar spaces_nil (ScalarType.names_all t (ScalarType.mem_all t)).1
      spaces_nil
    rwa [List.nil_append, List.append_nil] at h
  | array element ih =>
    have h := LogicalName.array spaces_nil ih spaces_nil
    rwa [List.nil_append, List.append_nil, ← String.toList_append] at h
  | list element ih =>
    have h := LogicalName.list spaces_nil ih spaces_nil
    rwa [List.nil_append, List.append_nil, ← String.toList_append, ← String.toList_append] at h

/-- A type is read back from what it is written as. Every text is read, and as a type exactly if
the grammar has it with this type; there is no other reading of it. -/
theorem parse_eq_ok_iff_logicalName :
    (∀ t : LogicalType, parse t.text = .ok t) ∧
      ∀ s : String, (∀ t, parse s = .ok t ↔ LogicalName s.toList t) ∧
        ∀ t u, LogicalName s.toList t → LogicalName s.toList u → t = u := by
  refine ⟨fun t => read_of_logicalName (logicalName_text t), fun s => ⟨fun t => read_eq_ok_iff, ?_⟩⟩
  intro t u ht hu
  exact Except.ok.inj ((read_of_logicalName ht).symm.trans (read_of_logicalName hu))

end LogicalType

end SchemaDdl
