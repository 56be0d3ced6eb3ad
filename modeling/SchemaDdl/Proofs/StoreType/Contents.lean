import Mathlib.Data.List.Induction
import Mathlib.Data.List.Nodup
import SchemaDdl.Proofs.StoreType.Transparency

/-!
# What a memo holds

Each query needs certain entries: a sized type is kept under its name, an array
under its own name with its sized element, and an array of a logical type under
that type. A query adds what it needs and what is not there yet. So the
contents of a memo are what the queries need that it was asked, in any order.
-/

namespace SchemaDdl

theorem Descriptor.ne_arrayOf (d : Descriptor) : d ≠ d.arrayOf := by
  intro h
  rw [arrayOf] at h
  cases h

/-! ## The entries that are needed -/

namespace StoreName

/-- A name of a scalar type is kept if the type has a size. -/
def scalarEntries (key : List Char) : List (String × Descriptor) :=
  match Descriptor.builtin? (String.ofList key) with
  | some _ => []
  | none => ((sizedDescriptor? key).map fun d => (String.ofList key, d)).toList

/-- The entry of an array comes after the one of its element. -/
def arrayEntries (key : List Char) : List (String × Descriptor) :=
  match arrayElement? key with
  | none => []
  | some element =>
    match scalarDescriptor? (Text.trim element) with
    | none => []
    | some d => scalarEntries (Text.trim element) ++ [(String.ofList key, d.arrayOf)]

def entries (key : List Char) : List (String × Descriptor) :=
  match scalarDescriptor? key with
  | some _ => scalarEntries key
  | none => arrayEntries key

theorem scalarEntries_eq_nil {key : List Char} (h : scalarDescriptor? key = none) :
    scalarEntries key = [] := by
  obtain ⟨hbuiltin, hsized⟩ := Option.or_eq_none_iff.1 h
  simp only [scalarEntries, hbuiltin, hsized]
  rfl

theorem mem_scalarEntries_iff {key : List Char} {entry : String × Descriptor} :
    entry ∈ scalarEntries key ↔
      Descriptor.builtin? (String.ofList key) = none ∧ entry.1 = String.ofList key ∧
        sizedDescriptor? key = some entry.2 := by
  obtain ⟨name, d⟩ := entry
  rw [scalarEntries]
  cases Descriptor.builtin? (String.ofList key) with
  | some e => simp
  | none =>
    simp only [Option.mem_toList, Option.map_eq_some_iff, Prod.mk.injEq, true_and]
    constructor
    · rintro ⟨_, hd, rfl, rfl⟩
      exact ⟨rfl, hd⟩
    · rintro ⟨rfl, hd⟩
      exact ⟨d, hd, rfl, rfl⟩

theorem arrayEntries_eq_nil {key : List Char} (h : arrayDescriptor? key = none) :
    arrayEntries key = [] := by
  rw [arrayDescriptor?, Option.bind_eq_none_iff] at h
  cases helement : arrayElement? key with
  | none => simp only [arrayEntries, helement]
  | some element =>
    have hscalar := Option.map_eq_none_iff.1 (h element helement)
    simp only [arrayEntries, helement, hscalar]

theorem arrayEntries_eq {key element : List Char} {d : Descriptor}
    (helement : arrayElement? key = some element)
    (hd : scalarDescriptor? (Text.trim element) = some d) :
    arrayEntries key = scalarEntries (Text.trim element) ++ [(String.ofList key, d.arrayOf)] := by
  simp only [arrayEntries, helement, hd]

theorem entries_eq_scalarEntries {key : List Char} {d : Descriptor}
    (h : scalarDescriptor? key = some d) : entries key = scalarEntries key := by
  simp only [entries, h]

theorem entries_eq_arrayEntries {key : List Char} (h : scalarDescriptor? key = none) :
    entries key = arrayEntries key := by
  simp only [entries, h]

theorem entries_eq_nil {key : List Char} (h : descriptor? key = none) : entries key = [] := by
  obtain ⟨hscalar, harray⟩ := Option.or_eq_none_iff.1 h
  rw [entries_eq_arrayEntries hscalar, arrayEntries_eq_nil harray]

theorem scalarDescriptor?_of_mem {key : List Char} {entry : String × Descriptor}
    (h : entry ∈ scalarEntries key) : scalarDescriptor? key = some entry.2 := by
  obtain ⟨hbuiltin, -, hsized⟩ := mem_scalarEntries_iff.1 h
  rw [scalarDescriptor?, hbuiltin, hsized, Option.none_or]

theorem descriptor?_of_mem_scalarEntries {key : List Char} {entry : String × Descriptor}
    (h : entry ∈ scalarEntries key) : descriptor? entry.1.toList = some entry.2 := by
  obtain ⟨-, hname, -⟩ := mem_scalarEntries_iff.1 h
  rw [hname, String.toList_ofList, descriptor?, scalarDescriptor?_of_mem h, Option.some_or]

theorem entries_of_mem_scalarEntries {key : List Char} {entry : String × Descriptor}
    (h : entry ∈ scalarEntries key) : entries entry.1.toList = scalarEntries key := by
  obtain ⟨-, hname, -⟩ := mem_scalarEntries_iff.1 h
  rw [hname, String.toList_ofList, entries_eq_scalarEntries (scalarDescriptor?_of_mem h)]

/-- A name needs an entry of its own type, or it is an array that also needs one of its element. -/
theorem mem_entries_cases {key : List Char} {entry : String × Descriptor}
    (h : entry ∈ entries key) :
    (∃ part, entry ∈ scalarEntries part ∧ scalarEntries part ⊆ entries key) ∨
      entry.1 = String.ofList key ∧ descriptor? key = some entry.2 := by
  cases hscalar : scalarDescriptor? key with
  | some d =>
    have hkey := entries_eq_scalarEntries hscalar
    exact .inl ⟨key, hkey ▸ h, hkey ▸ List.Subset.refl _⟩
  | none =>
    cases harray : arrayDescriptor? key with
    | none =>
      rw [entries_eq_arrayEntries hscalar, arrayEntries_eq_nil harray] at h
      cases h
    | some array =>
      obtain ⟨element, helement, hmap⟩ := Option.bind_eq_some_iff.1 harray
      obtain ⟨d, hd, rfl⟩ := Option.map_eq_some_iff.1 hmap
      have hkey := (entries_eq_arrayEntries hscalar).trans (arrayEntries_eq helement hd)
      rw [hkey] at h ⊢
      rcases List.mem_append.1 h with hinner | hself
      · exact .inl ⟨_, hinner, List.subset_append_left _ _⟩
      · rw [List.mem_singleton.1 hself, descriptor?, hscalar, harray]
        exact .inr ⟨rfl, rfl⟩

theorem entries_subset {key : List Char} {entry : String × Descriptor} (h : entry ∈ entries key) :
    entries entry.1.toList ⊆ entries key := by
  rcases mem_entries_cases h with ⟨part, hpart, hsubset⟩ | ⟨hname, -⟩
  · rwa [entries_of_mem_scalarEntries hpart]
  · rw [hname, String.toList_ofList]
    exact List.Subset.refl _

theorem descriptor?_of_mem_entries {key : List Char} {entry : String × Descriptor}
    (h : entry ∈ entries key) : descriptor? entry.1.toList = some entry.2 := by
  rcases mem_entries_cases h with ⟨part, hpart, -⟩ | ⟨hname, hd⟩
  · exact descriptor?_of_mem_scalarEntries hpart
  · rwa [hname, String.toList_ofList]

end StoreName

namespace LogicalType

/-- What is kept to find the type of a logical type: the arrays in it that are stored. -/
def entries : LogicalType → List (LogicalType × Descriptor)
  | .scalar _ => []
  | .array element =>
    element.entries ++ ((arrayDescriptor? element.descriptor?).map (.array element, ·)).toList
  | .list element =>
    element.entries ++ ((arrayDescriptor? element.descriptor?).map (.list element, ·)).toList

/-- The entry is that of the type itself or of an array inside it, and holds the type of that. -/
structure Needs (t : LogicalType) (entry : LogicalType × Descriptor) : Prop where
  subset : entry.1.entries ⊆ t.entries
  depth_le : entry.1.depth ≤ t.depth
  descriptor : entry.1.descriptor? = some entry.2

theorem needs_of_mem_layer {t element : LogicalType} {entry : LogicalType × Descriptor}
    (hentries : t.entries = element.entries ++ (t.descriptor?.map (t, ·)).toList)
    (hdepth : element.depth ≤ t.depth) (ih : entry ∈ element.entries → element.Needs entry)
    (h : entry ∈ t.entries) : t.Needs entry := by
  rw [hentries] at h
  rcases List.mem_append.1 h with hinner | hself
  · obtain ⟨hsubset, hdeep, hd⟩ := ih hinner
    refine ⟨?_, Nat.le_trans hdeep hdepth, hd⟩
    intro other hother
    rw [hentries]
    exact List.mem_append_left _ (hsubset hother)
  · obtain ⟨d, hd, rfl⟩ := Option.map_eq_some_iff.1 (Option.mem_toList.1 hself)
    exact ⟨List.Subset.refl _, Nat.le_refl _, hd⟩

theorem needs_of_mem {t : LogicalType} {entry : LogicalType × Descriptor}
    (h : entry ∈ t.entries) : t.Needs entry := by
  induction t with
  | scalar t => cases h
  | array element ih => exact needs_of_mem_layer rfl (Nat.le_succ _) ih h
  | list element ih => exact needs_of_mem_layer rfl (Nat.le_succ _) ih h

end LogicalType

namespace TypeQuery

def nameEntries (q : TypeQuery) : List (String × Descriptor) :=
  q.storeName.elim [] fun name => StoreName.entries (StoreName.key name)

/-- The entries under logical types that a query needs: none if its name is found, or if its size
makes a type of its own. -/
def logicalEntries (q : TypeQuery) : List (LogicalType × Descriptor) :=
  match q.storeName.bind fun name => StoreName.descriptor? (StoreName.key name) with
  | some _ => []
  | none =>
    q.logical.elim [] fun t =>
      match q.size.bind fun size => Memo.sizedLogical? t size q.fixedLength with
      | some _ => []
      | none => t.entries

theorem nameEntries_cases (q : TypeQuery) :
    q.nameEntries = [] ∨ ∃ key, q.nameEntries = StoreName.entries key := by
  rw [nameEntries]
  cases q.storeName with
  | none => exact .inl rfl
  | some name =>
    rw [Option.elim_some]
    exact .inr ⟨_, rfl⟩

theorem logicalEntries_cases (q : TypeQuery) :
    q.logicalEntries = [] ∨ ∃ t : LogicalType, q.logicalEntries = t.entries := by
  rw [logicalEntries]
  split
  · exact .inl rfl
  · cases q.logical with
    | none => exact .inl rfl
    | some t =>
      rw [Option.elim_some]
      split
      · exact .inl rfl
      · exact .inr ⟨t, rfl⟩

theorem needs_of_mem_nameEntries {q : TypeQuery} {entry : String × Descriptor}
    (h : entry ∈ q.nameEntries) :
    StoreName.entries entry.1.toList ⊆ q.nameEntries ∧
      StoreName.descriptor? entry.1.toList = some entry.2 := by
  rcases q.nameEntries_cases with hnil | ⟨key, hkey⟩
  · rw [hnil] at h
    cases h
  · rw [hkey] at h ⊢
    exact ⟨StoreName.entries_subset h, StoreName.descriptor?_of_mem_entries h⟩

theorem needs_of_mem_logicalEntries {q : TypeQuery} {entry : LogicalType × Descriptor}
    (h : entry ∈ q.logicalEntries) :
    entry.1.entries ⊆ q.logicalEntries ∧ entry.1.descriptor? = some entry.2 := by
  rcases q.logicalEntries_cases with hnil | ⟨t, ht⟩
  · rw [hnil] at h
    cases h
  · rw [ht] at h ⊢
    have hneeds := LogicalType.needs_of_mem h
    exact ⟨hneeds.subset, hneeds.descriptor⟩

theorem nameEntries_eq_nil {q : TypeQuery}
    (h : (q.storeName.bind fun name => StoreName.descriptor? (StoreName.key name)) = none) :
    q.nameEntries = [] := by
  rw [nameEntries]
  cases hname : q.storeName with
  | none => rfl
  | some name =>
    rw [hname, Option.bind_some] at h
    rw [Option.elim_some, StoreName.entries_eq_nil h]

theorem logicalEntries_of_unlogical {q : TypeQuery} (h : q.logical = none) :
    q.logicalEntries = [] := by
  rw [logicalEntries, h]
  split <;> rfl

theorem logicalEntries_of_sized {q : TypeQuery}
    (hlogical : q.logical = some (.scalar .string) ∨ q.logical = some (.scalar .bitVec))
    (hsize : q.size.isSome) : q.logicalEntries = [] := by
  obtain ⟨size, hsize⟩ := Option.isSome_iff_exists.1 hsize
  have hsized {t : LogicalType} (ht : t = .scalar .string ∨ t = .scalar .bitVec) :
      ∃ d, Memo.sizedLogical? t size q.fixedLength = some d := by
    rcases ht with rfl | rfl
    · cases q.fixedLength <;> exact ⟨_, rfl⟩
    · cases q.fixedLength <;> exact ⟨_, rfl⟩
  have hnil {t : LogicalType} (ht : q.logical = some t)
      (h : t = .scalar .string ∨ t = .scalar .bitVec) : q.logicalEntries = [] := by
    obtain ⟨d, hd⟩ := hsized h
    rw [logicalEntries, ht, hsize]
    split
    · rfl
    · simp [hd]
  rcases hlogical with ht | ht
  · exact hnil ht (.inl rfl)
  · exact hnil ht (.inr rfl)

end TypeQuery

/-! ## Adding what is not there -/

section Keep

variable {α : Type} [DecidableEq α]

def Memo.keep (entries : List α) (entry : α) : List α :=
  if entry ∈ entries then entries else entries ++ [entry]

def Memo.keepAll (entries more : List α) : List α := more.foldl Memo.keep entries

namespace Memo

theorem mem_keep_iff {entries : List α} {entry other : α} :
    other ∈ keep entries entry ↔ other ∈ entries ∨ other = entry := by
  rw [keep]
  split
  · next h =>
    refine ⟨.inl, ?_⟩
    rintro (hmem | rfl)
    · exact hmem
    · exact h
  · simp

theorem mem_keepAll_iff {entries more : List α} {entry : α} :
    entry ∈ keepAll entries more ↔ entry ∈ entries ∨ entry ∈ more := by
  induction more generalizing entries with
  | nil => simp [keepAll]
  | cons first rest ih =>
    have hstep : keepAll entries (first :: rest) = keepAll (keep entries first) rest := rfl
    rw [hstep, ih, mem_keep_iff, List.mem_cons, or_assoc]

theorem prefix_keepAll (entries more : List α) : entries <+: keepAll entries more := by
  induction more generalizing entries with
  | nil => exact List.prefix_refl _
  | cons first rest ih =>
    refine List.IsPrefix.trans ?_ (ih (keep entries first))
    rw [keep]
    split
    · exact List.prefix_refl _
    · exact List.prefix_append _ _

theorem nodup_keepAll {entries : List α} (h : entries.Nodup) (more : List α) :
    (keepAll entries more).Nodup := by
  induction more generalizing entries with
  | nil => exact h
  | cons first rest ih =>
    apply ih
    rw [keep]
    split
    · exact h
    · next hnew => exact List.nodup_append.2 ⟨h, by simp, by
        rintro a ha b hb rfl
        exact hnew (List.mem_singleton.1 hb ▸ ha)⟩

theorem keepAll_eq_self {entries more : List α} (h : more ⊆ entries) :
    keepAll entries more = entries := by
  induction more with
  | nil => rfl
  | cons first rest ih =>
    obtain ⟨hfirst, hrest⟩ := List.cons_subset.1 h
    have hstep : keepAll entries (first :: rest) = keepAll (keep entries first) rest := rfl
    rw [hstep, keep, if_pos hfirst, ih hrest]

theorem keepAll_singleton {entries : List α} {entry : α} (h : entry ∉ entries) :
    keepAll entries [entry] = entries ++ [entry] :=
  if_neg h

theorem keepAll_append (entries first rest : List α) :
    keepAll entries (first ++ rest) = keepAll (keepAll entries first) rest :=
  List.foldl_append

end Memo

end Keep

namespace Memo

/-- A memo in which nothing is missing that one of its entries needs. -/
structure Complete (memo : Memo) : Prop where
  byName : ∀ entry ∈ memo.byName, StoreName.entries entry.1.toList ⊆ memo.byName
  byLogical : ∀ entry ∈ memo.byLogical, entry.1.entries ⊆ memo.byLogical

def supplied (memo : Memo) (q : TypeQuery) : Memo where
  byName := keepAll memo.byName q.nameEntries
  byLogical := keepAll memo.byLogical q.logicalEntries

theorem complete_empty : empty.Complete where
  byName _ h := nomatch h
  byLogical _ h := nomatch h

theorem Complete.supplied {memo : Memo} (h : memo.Complete) (q : TypeQuery) :
    (memo.supplied q).Complete where
  byName := by
    intro entry hentry other hother
    rw [Memo.supplied, mem_keepAll_iff] at hentry ⊢
    rcases hentry with hold | hnew
    · exact .inl (h.byName entry hold hother)
    · exact .inr ((TypeQuery.needs_of_mem_nameEntries hnew).1 hother)
  byLogical := by
    intro entry hentry other hother
    rw [Memo.supplied, mem_keepAll_iff] at hentry ⊢
    rcases hentry with hold | hnew
    · exact .inl (h.byLogical entry hold hother)
    · exact .inr ((TypeQuery.needs_of_mem_logicalEntries hnew).1 hother)

/-! ## What the parts of a search leave -/

theorem mem_of_lookup {α : Type} [BEq α] [LawfulBEq α] {entries : List (α × Descriptor)} {key : α}
    {d : Descriptor} (h : entries.lookup key = some d) : (key, d) ∈ entries := by
  obtain ⟨before, after, rfl, -⟩ := List.lookup_eq_some_iff.1 h
  simp

theorem notMem_of_lookup {α : Type} [BEq α] [LawfulBEq α] {entries : List (α × Descriptor)}
    {key : α} (h : entries.lookup key = none) (d : Descriptor) : (key, d) ∉ entries := by
  intro hmem
  have hne := List.lookup_eq_none_iff.1 h _ hmem
  simp at hne

theorem findScalar_snd {memo : Memo} (h : memo.Sound) (key : List Char) :
    (memo.findScalar key).2 =
      { memo with byName := keepAll memo.byName (StoreName.scalarEntries key) } := by
  rw [findScalar, StoreName.scalarEntries]
  cases hbuiltin : Descriptor.builtin? (String.ofList key) with
  | some d => rfl
  | none =>
    cases hsized : StoreName.sizedDescriptor? key with
    | none => rfl
    | some d =>
      cases hrecall : memo.recallName? (String.ofList key) with
      | none =>
        have hnew := notMem_of_lookup hrecall d
        simp [rememberName, hrecall, keepName, keepAll, keep, hnew]
      | some kept =>
        have hkey : StoreName.descriptor? key = some d := by
          simp [StoreName.descriptor?, StoreName.scalarDescriptor?, hbuiltin, hsized]
        obtain rfl : kept = d := Option.some.inj ((h.byName hrecall).symm.trans hkey)
        have hold := mem_of_lookup hrecall
        simp [rememberName, hrecall, keepAll, keep, hold]

theorem notMem_keepAll_scalarEntries {memo : Memo} {key element : List Char} {d : Descriptor}
    (hrecall : memo.recallName? (String.ofList key) = none)
    (hd : StoreName.scalarDescriptor? element = some d) :
    (String.ofList key, d.arrayOf) ∉
      keepAll memo.byName (StoreName.scalarEntries element) := by
  rw [mem_keepAll_iff, not_or]
  refine ⟨notMem_of_lookup hrecall _, fun hmem => ?_⟩
  -- An entry of the element has the type of the element, which is no array of itself.
  have hsame := Option.some.inj (hd.symm.trans (StoreName.scalarDescriptor?_of_mem hmem))
  exact Descriptor.ne_arrayOf d hsame

theorem findArray_snd {memo : Memo} (h : memo.Sound) (hcomplete : memo.Complete) {key : List Char}
    (hscalar : StoreName.scalarDescriptor? key = none) :
    (memo.findArray key).2 =
      { memo with byName := keepAll memo.byName (StoreName.arrayEntries key) } := by
  rw [findArray]
  cases helement : StoreName.arrayElement? key with
  | none =>
    have hnil : StoreName.arrayEntries key = [] :=
      StoreName.arrayEntries_eq_nil (by rw [StoreName.arrayDescriptor?, helement, Option.bind_none])
    rw [hnil]
    rfl
  | some element =>
    cases hrecall : memo.recallName? (String.ofList key) with
    | some kept =>
      -- The search ends before the element is looked at; all that the name needs is there already.
      have hthere : StoreName.arrayEntries key ⊆ memo.byName := by
        have hneeds := hcomplete.byName _ (mem_of_lookup hrecall)
        rwa [String.toList_ofList, StoreName.entries_eq_arrayEntries hscalar] at hneeds
      simp only [rememberName, hrecall, keepAll_eq_self hthere]
    | none =>
      obtain ⟨hfound, -⟩ := answers_findScalar h (Text.trim element)
      have hleft := findScalar_snd h (Text.trim element)
      cases hfind : memo.findScalar (Text.trim element) with
      | mk found later =>
        rw [hfind] at hfound hleft
        obtain rfl : later = _ := hleft
        cases found with
        | none =>
          have hnil : StoreName.arrayEntries key = [] := by
            refine StoreName.arrayEntries_eq_nil ?_
            rw [StoreName.arrayDescriptor?, helement, Option.bind_some, ← hfound]
            rfl
          have hinner := StoreName.scalarEntries_eq_nil hfound.symm
          simp only [rememberName, hrecall, hfind, hnil, hinner]
        | some d =>
          have hnew := notMem_keepAll_scalarEntries hrecall hfound.symm
          simp only [rememberName, hrecall, hfind, StoreName.arrayEntries_eq helement hfound.symm,
            keepAll_append]
          rw [keepName, keepAll_singleton hnew]

theorem findName_snd {memo : Memo} (h : memo.Sound) (hcomplete : memo.Complete) (name : String) :
    (memo.findName name).2 =
      { memo with byName := keepAll memo.byName (StoreName.entries (StoreName.key name)) } := by
  obtain ⟨hfound, -⟩ := answers_findScalar h (StoreName.key name)
  have hleft := findScalar_snd h (StoreName.key name)
  rw [findName]
  cases hfind : memo.findScalar (StoreName.key name) with
  | mk found later =>
    rw [hfind] at hfound hleft
    cases found with
    | some d =>
      rw [StoreName.entries_eq_scalarEntries hfound.symm]
      exact hleft
    | none =>
      rw [StoreName.scalarEntries_eq_nil hfound.symm] at hleft
      obtain rfl : later = memo := hleft
      rw [StoreName.entries_eq_arrayEntries hfound.symm]
      exact findArray_snd h hcomplete hfound.symm

theorem findElements_snd {memo : Memo} (hcomplete : memo.Complete) {t element : LogicalType}
    {given : Option Descriptor × Memo} (hdepth : element.depth < t.depth)
    (ht : t.descriptor? = LogicalType.arrayDescriptor? element.descriptor?)
    (hentries : t.entries = element.entries ++ (t.descriptor?.map (t, ·)).toList)
    (hfound : given.1 = element.descriptor?)
    (hleft : given.2 = { memo with byLogical := keepAll memo.byLogical element.entries }) :
    (findLogical.findElements memo t given).2 =
      { memo with byLogical := keepAll memo.byLogical t.entries } := by
  unfold findLogical.findElements
  split
  · next kept hrecall =>
    have hthere : t.entries ⊆ memo.byLogical := hcomplete.byLogical _ (mem_of_lookup hrecall)
    rw [keepAll_eq_self hthere]
  · next hrecall =>
    rw [← hfound] at ht
    split
    · next d later =>
      obtain rfl : later = _ := hleft
      split
      · next harray =>
        have hnone : t.descriptor? = none := by simp [ht, LogicalType.arrayDescriptor?, harray]
        simp [hentries, hnone]
      · next harray =>
        have hsome : t.descriptor? = some d.arrayOf := by
          simp [ht, LogicalType.arrayDescriptor?, harray]
        -- All entries of the element are less deep.
        have hnew : (t, d.arrayOf) ∉ keepAll memo.byLogical element.entries := by
          rw [mem_keepAll_iff, not_or]
          refine ⟨notMem_of_lookup hrecall _, fun hmem => ?_⟩
          exact absurd (LogicalType.needs_of_mem hmem).depth_le (Nat.not_le.2 hdepth)
        simp only [hentries, hsome, Option.map_some, Option.toList_some, keepAll_append]
        rw [keepLogical, keepAll_singleton hnew]
    · next later =>
      have hnone : t.descriptor? = none := by simp [ht, LogicalType.arrayDescriptor?]
      simpa [hentries, hnone] using hleft

theorem findLogical_snd {memo : Memo} (h : memo.Sound) (hcomplete : memo.Complete)
    (t : LogicalType) :
    (memo.findLogical t).2 = { memo with byLogical := keepAll memo.byLogical t.entries } := by
  induction t with
  | scalar t => rfl
  | array element ih =>
    obtain ⟨hfound, -⟩ := answers_findLogical h element
    exact findElements_snd hcomplete (Nat.lt_succ_self _) rfl rfl hfound ih
  | list element ih =>
    obtain ⟨hfound, -⟩ := answers_findLogical h element
    exact findElements_snd hcomplete (Nat.lt_succ_self _) rfl rfl hfound ih

/-- A query adds what it needs and is not there, and nothing else. -/
theorem find_snd {memo : Memo} (h : memo.Sound) (hcomplete : memo.Complete) (q : TypeQuery) :
    (memo.find q).2 = memo.supplied q := by
  have hname : Answers (q.storeName.elim (none, memo) memo.findName)
        (q.storeName.bind fun name => StoreName.descriptor? (StoreName.key name)) ∧
      (q.storeName.elim (none, memo) memo.findName).2 =
        { memo with byName := keepAll memo.byName q.nameEntries } := by
    rw [TypeQuery.nameEntries]
    cases q.storeName with
    | none => exact ⟨⟨rfl, h⟩, rfl⟩
    | some name =>
      simp only [Option.elim_some, Option.bind_some]
      exact ⟨answers_findName h name, findName_snd h hcomplete name⟩
  -- The search by logical type starts from what the search by name has left.
  obtain ⟨⟨hfound, hsound⟩, hleft⟩ := hname
  rw [find, supplied, TypeQuery.logicalEntries, ← hfound]
  cases hfind : q.storeName.elim (none, memo) memo.findName with
  | mk found later =>
    rw [hfind] at hleft hsound
    obtain rfl : later = _ := hleft
    have hlater : ({ memo with byName := keepAll memo.byName q.nameEntries } : Memo).Complete :=
      ⟨(hcomplete.supplied q).byName, hcomplete.byLogical⟩
    cases found with
    | some d => rfl
    | none =>
      cases q.logical with
      | none => rfl
      | some t =>
        cases hsized : q.size.bind fun size => sizedLogical? t size q.fixedLength with
        | some d => simp [hsized, keepAll]
        | none => simp [hsized, findLogical_snd hsound hlater]

/-! ## What requests leave -/

theorem serve_snd {memo : Memo} (h : memo.Sound) (hcomplete : memo.Complete)
    (request : TypeRequest) : (memo.serve request).2 = memo.supplied request.query := by
  cases request with
  | find q => exact find_snd h hcomplete q
  | require q => exact find_snd h hcomplete q

theorem serveAll_append (memo : Memo) (requests : List TypeRequest) (request : TypeRequest) :
    memo.serveAll (requests ++ [request]) = ((memo.serveAll requests).serve request).2 :=
  List.foldl_append

theorem complete_serveAll (asked : List TypeRequest) : (empty.serveAll asked).Complete := by
  induction asked using List.reverseRecOn with
  | nil => exact complete_empty
  | append_singleton asked request ih =>
    rw [serveAll_append, serve_snd (sound_empty.serveAll asked) ih]
    exact ih.supplied request.query

theorem serve_serveAll_snd (asked : List TypeRequest) (request : TypeRequest) :
    ((empty.serveAll asked).serve request).2 = (empty.serveAll asked).supplied request.query :=
  serve_snd (sound_empty.serveAll asked) (complete_serveAll asked) request

theorem mem_serveAll_iff (asked : List TypeRequest) :
    (∀ entry, entry ∈ (empty.serveAll asked).byName ↔
        ∃ q ∈ asked.map TypeRequest.query, entry ∈ q.nameEntries) ∧
      ∀ entry, entry ∈ (empty.serveAll asked).byLogical ↔
        ∃ q ∈ asked.map TypeRequest.query, entry ∈ q.logicalEntries := by
  induction asked using List.reverseRecOn with
  | nil => simp [serveAll, empty]
  | append_singleton asked request ih =>
    rw [serveAll_append, serve_serveAll_snd]
    simp only [supplied, mem_keepAll_iff, ih.1, ih.2, List.map_append, List.mem_append,
      List.map_cons, List.map_nil, List.mem_singleton, or_and_right, exists_or, exists_eq_left,
      implies_true, and_self]

theorem nodup_serveAll (asked : List TypeRequest) :
    (empty.serveAll asked).byName.Nodup ∧ (empty.serveAll asked).byLogical.Nodup := by
  induction asked using List.reverseRecOn with
  | nil => exact ⟨List.nodup_nil, List.nodup_nil⟩
  | append_singleton asked request ih =>
    rw [serveAll_append, serve_serveAll_snd]
    exact ⟨nodup_keepAll ih.1 _, nodup_keepAll ih.2 _⟩

theorem supplied_eq_self {memo : Memo} {q : TypeQuery} (hname : q.nameEntries ⊆ memo.byName)
    (hlogical : q.logicalEntries ⊆ memo.byLogical) : memo.supplied q = memo := by
  rw [supplied, keepAll_eq_self hname, keepAll_eq_self hlogical]

/-- Where the type belongs to the key, no two entries have the same key. -/
theorem nodup_keys {α : Type} {entries : List (α × Descriptor)} (type? : α → Option Descriptor)
    (h : entries.Nodup) (htype : ∀ entry ∈ entries, type? entry.1 = some entry.2) :
    (entries.map Prod.fst).Nodup := by
  refine List.Nodup.map_on ?_ h
  intro entry hentry other hother hkey
  have hd := htype entry hentry
  rw [hkey, htype other hother] at hd
  exact Prod.ext hkey (Option.some.inj hd).symm

theorem nodup_keys_serveAll (asked : List TypeRequest) :
    ((empty.serveAll asked).byName.map Prod.fst).Nodup ∧
      ((empty.serveAll asked).byLogical.map Prod.fst).Nodup := by
  obtain ⟨hname, hlogical⟩ := nodup_serveAll asked
  constructor
  · refine nodup_keys (fun name => StoreName.descriptor? name.toList) hname ?_
    intro entry hentry
    obtain ⟨_, -, hneeded⟩ := ((mem_serveAll_iff asked).1 entry).1 hentry
    exact (TypeQuery.needs_of_mem_nameEntries hneeded).2
  · refine nodup_keys LogicalType.descriptor? hlogical ?_
    intro entry hentry
    obtain ⟨_, -, hneeded⟩ := ((mem_serveAll_iff asked).2 entry).1 hentry
    exact (TypeQuery.needs_of_mem_logicalEntries hneeded).2

/-- Only which queries were asked matters, not in which order or how often. -/
theorem perm_serveAll {asked again : List TypeRequest}
    (h : ∀ q, q ∈ again.map TypeRequest.query ↔ q ∈ asked.map TypeRequest.query) :
    (empty.serveAll again).byName.Perm (empty.serveAll asked).byName ∧
      (empty.serveAll again).byLogical.Perm (empty.serveAll asked).byLogical := by
  obtain ⟨hname, hlogical⟩ := nodup_serveAll asked
  obtain ⟨hnameAgain, hlogicalAgain⟩ := nodup_serveAll again
  refine ⟨(List.perm_ext_iff_of_nodup hnameAgain hname).2 ?_,
    (List.perm_ext_iff_of_nodup hlogicalAgain hlogical).2 ?_⟩
  · intro entry
    simp only [(mem_serveAll_iff _).1, h]
  · intro entry
    simp only [(mem_serveAll_iff _).2, h]

/-- The entries of a memo, each under a key of its own, are those that the queries need that it was
asked; so only which queries these were decides them. To ask one of them again changes nothing, and
a new one only adds entries; a name without a type adds none, and neither does a text or a bit
vector of a certain size. -/
theorem contents_serveAll (asked : List TypeRequest) :
    let memo := empty.serveAll asked
    ((memo.byName.map Prod.fst).Nodup ∧ (memo.byLogical.map Prod.fst).Nodup) ∧
      (∀ entry, entry ∈ memo.byName ↔
        ∃ q ∈ asked.map TypeRequest.query, entry ∈ q.nameEntries) ∧
      (∀ entry, entry ∈ memo.byLogical ↔
        ∃ q ∈ asked.map TypeRequest.query, entry ∈ q.logicalEntries) ∧
      (∀ again : List TypeRequest,
        (∀ q, q ∈ again.map TypeRequest.query ↔ q ∈ asked.map TypeRequest.query) →
          (empty.serveAll again).byName.Perm memo.byName ∧
            (empty.serveAll again).byLogical.Perm memo.byLogical ∧
            (empty.serveAll again).count = memo.count) ∧
      (∀ request, request.query ∈ asked.map TypeRequest.query →
        (memo.serve request).2 = memo) ∧
      (∀ request, memo.byName <+: (memo.serve request).2.byName ∧
        memo.byLogical <+: (memo.serve request).2.byLogical) ∧
      (∀ request, request.query.logical = none →
        (¬∃ d, (memo.serve request).1 = .ok (some d)) → (memo.serve request).2 = memo) ∧
      ∀ request, request.query.storeName = none →
        (request.query.logical = some (.scalar .string) ∨
          request.query.logical = some (.scalar .bitVec)) →
        request.query.size.isSome → (memo.serve request).2 = memo := by
  intro memo
  have hserve := serve_serveAll_snd asked
  obtain ⟨hbyName, hbyLogical⟩ := mem_serveAll_iff asked
  refine ⟨nodup_keys_serveAll asked, hbyName, hbyLogical, ?_, ?_, ?_, ?_, ?_⟩
  · intro again h
    obtain ⟨hname, hlogical⟩ := perm_serveAll h
    exact ⟨hname, hlogical, by rw [count, count, hname.length_eq, hlogical.length_eq]⟩
  · intro request hasked
    rw [hserve]
    refine supplied_eq_self (fun entry hneeded => ?_) fun entry hneeded => ?_
    · exact (hbyName entry).2 ⟨_, hasked, hneeded⟩
    · exact (hbyLogical entry).2 ⟨_, hasked, hneeded⟩
  · intro request
    rw [hserve]
    exact ⟨prefix_keepAll _ _, prefix_keepAll _ _⟩
  · intro request hlogical hnone
    rw [serve_eq_answer (sound_empty.serveAll asked)] at hnone
    simp only [TypeRequest.answer_eq_ok_some_iff] at hnone
    have hresolve := Option.eq_none_iff_forall_ne_some.2 fun d hd => hnone ⟨d, hd⟩
    have hname := (Option.or_eq_none_iff.1 hresolve).1
    rw [hserve]
    exact supplied_eq_self (by simp [TypeQuery.nameEntries_eq_nil hname])
      (by simp [TypeQuery.logicalEntries_of_unlogical hlogical])
  · intro request hname hlogical hsize
    rw [hserve]
    exact supplied_eq_self (by simp [TypeQuery.nameEntries, hname])
      (by simp [TypeQuery.logicalEntries_of_sized hlogical hsize])

/-- The array that is asked for last finds its sized element there, the one that is asked for first
leaves it; of the arrays in one another only the inner one is kept. -/
theorem contents_serveAll_arrays :
    let element : TypeRequest := .require { storeName := some "varchar(10)" }
    let array : TypeRequest := .find { storeName := some " _VarChar(10)" }
    let nested : TypeRequest := .find { logical := some (.list (.array (.scalar .int32))) }
    let untyped : TypeRequest := .find { storeName := some "varchar(0)[]" }
    let sized : TypeRequest := .find { logical := some (.scalar .string), size := some 5 }
    let memo := empty.serveAll [element, array, nested]
    (empty.serveAll [nested, array, element, array]).byName.Perm memo.byName ∧
      (empty.serveAll [nested, array, element, array]).count = memo.count ∧ memo.count = 3 ∧
      (memo.serve array).2 = memo ∧ (memo.serve untyped).2 = memo ∧
      (memo.serve sized).2 = memo := by
  intro element array nested untyped sized memo
  obtain ⟨-, -, -, horder, hagain, -, huntyped, hsized⟩ :=
    contents_serveAll [element, array, nested]
  obtain ⟨hname, -, hcount⟩ := horder [nested, array, element, array] (by
    intro q
    simp only [List.map_cons, List.map_nil, List.mem_cons, List.not_mem_nil, or_false]
    tauto)
  have hnone : ¬∃ d, (memo.serve untyped).1 = .ok (some d) := by
    have hanswer : (memo.serve untyped).1 = .ok none := by decide +kernel
    rw [hanswer]
    rintro ⟨d, hd⟩
    cases hd
  exact ⟨hname, hcount, by decide +kernel, hagain array (by simp), huntyped untyped rfl hnone,
    hsized sized rfl (.inl rfl) rfl⟩

end Memo

end SchemaDdl
