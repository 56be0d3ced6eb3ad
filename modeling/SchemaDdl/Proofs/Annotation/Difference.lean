import Mathlib.Data.List.Nodup
import Mathlib.Logic.Function.Basic
import SchemaDdl.Annotation.Storage

/-!
# Differences of storage parameters

A server holds at most one value for each parameter. Two sets of parameters
differ by assignments and by names that are reset; carrying these out leads
from the old set to the new one, and nothing that stays the same is touched.
-/

namespace SchemaDdl

namespace StorageParameters

def assigned (values : String → Option String) (pairs : List (String × String)) :
    String → Option String :=
  pairs.foldl (fun values pair => Function.update values pair.1 (some pair.2)) values

def unassigned (values : String → Option String) (names : List String) :
    String → Option String :=
  names.foldl (fun values name => Function.update values name none) values

section Updates

variable {α : Type} {name : String}

theorem foldl_update_of_ne (key : α → String) (value : α → Option String)
    {values : String → Option String} {steps : List α} (h : ∀ step ∈ steps, name ≠ key step) :
    steps.foldl (fun values step => Function.update values (key step) (value step)) values name =
      values name := by
  induction steps generalizing values with
  | nil => rfl
  | cons step rest ih =>
    obtain ⟨hstep, hrest⟩ := List.forall_mem_cons.1 h
    rw [List.foldl_cons, ih hrest, Function.update_of_ne hstep]

/-- Where all updates of a name agree, one of them is enough. -/
theorem foldl_update_of_mem (key : α → String) (value : α → Option String)
    {values : String → Option String} {steps : List α} {final : Option String}
    (hagree : ∀ step ∈ steps, name = key step → value step = final)
    (h : ∃ step ∈ steps, name = key step) :
    steps.foldl (fun values step => Function.update values (key step) (value step)) values name =
      final := by
  induction steps generalizing values with
  | nil =>
    obtain ⟨_, hstep, -⟩ := h
    cases hstep
  | cons step rest ih =>
    obtain ⟨hstep, hrest⟩ := List.forall_mem_cons.1 hagree
    by_cases hlater : ∃ later ∈ rest, name = key later
    · exact ih hrest hlater
    · have hlast : ∀ later ∈ rest, name ≠ key later := fun later hmem hname =>
        hlater ⟨later, hmem, hname⟩
      obtain ⟨found, hmem, hname⟩ := h
      obtain rfl := (List.mem_cons.1 hmem).resolve_right fun hrest => hlast found hrest hname
      rw [List.foldl_cons, foldl_update_of_ne key value hlast, hname, Function.update_self]
      exact hstep hname

variable {values : String → Option String} {pairs : List (String × String)} {names : List String}

theorem assigned_of_notMem (h : name ∉ Entries.keys pairs) :
    assigned values pairs name = values name :=
  foldl_update_of_ne Prod.fst (some ∘ Prod.snd) fun _ hpair hname =>
    h (List.mem_map.2 ⟨_, hpair, hname.symm⟩)

theorem assigned_of_mem {value : String} (hkeys : (Entries.keys pairs).Nodup)
    (h : (name, value) ∈ pairs) : assigned values pairs name = some value := by
  refine foldl_update_of_mem Prod.fst (some ∘ Prod.snd) ?_ ⟨_, h, rfl⟩
  intro pair hpair hname
  have hsame : pair = (name, value) := List.inj_on_of_nodup_map hkeys hpair h hname.symm
  rw [hsame]
  rfl

theorem unassigned_of_notMem (h : name ∉ names) : unassigned values names name = values name :=
  foldl_update_of_ne id (fun _ => none) fun _ hmem hname => h (hname ▸ hmem)

theorem unassigned_of_mem (h : name ∈ names) : unassigned values names name = none :=
  foldl_update_of_mem id (fun _ => none) (fun _ _ _ => rfl) ⟨name, h, rfl⟩

end Updates

/-- The assignments and the reset names are just what leads from the old parameters to the new
ones, each in the order of the set that it comes from. -/
structure IsDiff (new old : StorageParameters) (changed : List (String × String))
    (removed : List String) : Prop where
  replay : unassigned (assigned old.get? changed) removed = new.get?
  nodup : (Entries.keys changed ++ removed).Nodup
  mem_changed_iff : ∀ name value,
    (name, value) ∈ changed ↔ new.get? name = some value ∧ old.get? name ≠ some value
  mem_removed_iff : ∀ name, name ∈ removed ↔ new.get? name = none ∧ old.get? name ≠ none
  eq_nil_iff : (changed = [] ∧ removed = []) ↔ ∀ name, new.get? name = old.get? name
  changed_sublist : changed.Sublist new.entries
  removed_sublist : removed.Sublist old.keys

variable {new old : StorageParameters}

theorem mem_changedFrom_iff {name value : String} :
    (name, value) ∈ changedFrom new old ↔
      new.get? name = some value ∧ old.get? name ≠ some value := by
  rw [changedFrom, List.mem_filter, bne_iff_ne, OrderedMap.get?_eq_some_iff]

theorem mem_removedFrom_iff {name : String} :
    name ∈ removedFrom new old ↔ new.get? name = none ∧ old.get? name ≠ none := by
  rw [removedFrom, List.mem_filter, Option.isNone_iff_eq_none, ← OrderedMap.isSome_get?_iff,
    Option.isSome_iff_ne_none, and_comm]

theorem nodup_keys_changedFrom : (Entries.keys (changedFrom new old)).Nodup :=
  (List.filter_sublist.map Prod.fst).nodup new.nodup_keys

theorem mem_keys_changedFrom {name : String} (h : name ∈ Entries.keys (changedFrom new old)) :
    ∃ value, new.get? name = some value ∧ old.get? name ≠ some value := by
  obtain ⟨⟨_, value⟩, hpair, rfl⟩ := List.mem_map.1 h
  exact ⟨value, mem_changedFrom_iff.1 hpair⟩

theorem nodup_names : (Entries.keys (changedFrom new old) ++ removedFrom new old).Nodup := by
  have hremoved : (removedFrom new old).Nodup := List.filter_sublist.nodup old.nodup_keys
  refine List.nodup_append.2 ⟨nodup_keys_changedFrom, hremoved, ?_⟩
  rintro name hchanged _ hgone rfl
  obtain ⟨value, hnew, -⟩ := mem_keys_changedFrom hchanged
  have hnone := (mem_removedFrom_iff.1 hgone).1
  rw [hnew] at hnone
  cases hnone

theorem replay_difference :
    unassigned (assigned old.get? (changedFrom new old)) (removedFrom new old) = new.get? := by
  funext name
  cases hnew : new.get? name with
  | some value =>
    have hkept : name ∉ removedFrom new old := fun hgone =>
      Option.some_ne_none value (hnew.symm.trans (mem_removedFrom_iff.1 hgone).1)
    rw [unassigned_of_notMem hkept]
    by_cases hsame : old.get? name = some value
    · have huntouched : name ∉ Entries.keys (changedFrom new old) := by
        intro hchanged
        obtain ⟨other, hother, hdiffers⟩ := mem_keys_changedFrom hchanged
        exact hdiffers (hsame.trans (hnew.symm.trans hother))
      rw [assigned_of_notMem huntouched, hsame]
    · exact assigned_of_mem nodup_keys_changedFrom (mem_changedFrom_iff.2 ⟨hnew, hsame⟩)
  | none =>
    by_cases hold : old.get? name = none
    · have huntouched : name ∉ Entries.keys (changedFrom new old) := by
        intro hchanged
        obtain ⟨value, hvalue, -⟩ := mem_keys_changedFrom hchanged
        exact Option.some_ne_none value (hvalue.symm.trans hnew)
      have hkept : name ∉ removedFrom new old := fun hgone => (mem_removedFrom_iff.1 hgone).2 hold
      rw [unassigned_of_notMem hkept, assigned_of_notMem huntouched, hold]
    · exact unassigned_of_mem (mem_removedFrom_iff.2 ⟨hnew, hold⟩)

/-- Nothing is assigned and nothing is reset between sets that are equal as maps. -/
theorem unchanged_iff :
    (changedFrom new old = [] ∧ removedFrom new old = []) ↔
      ∀ name, new.get? name = old.get? name := by
  constructor
  · rintro ⟨hchanged, hremoved⟩ name
    have hreplay : unassigned (assigned old.get? (changedFrom new old)) (removedFrom new old) =
        new.get? := replay_difference
    rw [hchanged, hremoved] at hreplay
    exact (congrFun hreplay name).symm
  · intro hsame
    constructor
    · refine List.eq_nil_iff_forall_not_mem.2 ?_
      rintro ⟨name, value⟩ hpair
      obtain ⟨hnew, hold⟩ := mem_changedFrom_iff.1 hpair
      exact hold ((hsame name).symm.trans hnew)
    · refine List.eq_nil_iff_forall_not_mem.2 ?_
      intro name hgone
      obtain ⟨hnew, hold⟩ := mem_removedFrom_iff.1 hgone
      exact hold ((hsame name).symm.trans hnew)

theorem isDiff_changedFrom_removedFrom (new old : StorageParameters) :
    IsDiff new old (changedFrom new old) (removedFrom new old) where
  replay := replay_difference
  nodup := nodup_names
  mem_changed_iff _ _ := mem_changedFrom_iff
  mem_removed_iff _ := mem_removedFrom_iff
  eq_nil_iff := unchanged_iff
  changed_sublist := List.filter_sublist
  removed_sublist := List.filter_sublist

end StorageParameters

end SchemaDdl
