import Mathlib.Data.List.Nodup
import SchemaDdl.Proofs.Annotation.Reading

/-!
# The meaning of a bag

Each part of a view is decided by one key, or by the keys with one beginning. A
bag can be read if none of these has a wrong value, and what it says is read off
key by key. So keys without a meaning do not count, and the order counts only
among storage parameters and among extensions.
-/

namespace SchemaDdl

namespace Annotation

def Key.single? : Key → Option String
  | .deprecated => some deprecatedKey
  | .comment => some commentKey
  | .strategy => some strategyKey
  | .indexMethod => some indexMethodKey
  | .interleave => some interleaveKey
  | .unlogged => some unloggedKey
  | _ => none

theorem Key.ofText_eq_iff_of_single {kind : Key} {single key : String}
    (h : kind.single? = some single) : ofText key = kind ↔ key = single := by
  constructor
  · intro hkind
    rw [ofText] at hkind
    repeat' split at hkind
    all_goals
      subst hkind
      cases h
    all_goals assumption
  · rintro rfl
    cases kind <;> cases h <;> decide

/-- Keys that are read: those in the namespace that have a meaning. -/
def Understood (key : String) : Prop :=
  space.toList <+: key.toList ∧
    (key ∈ [deprecatedKey, commentKey, strategyKey, indexMethodKey, interleaveKey, unloggedKey] ∨
      storageParameterStart.toList <+: key.toList ∨ extensionStart.toList <+: key.toList)

instance : DecidablePred Understood := fun key =>
  inferInstanceAs (Decidable (space.toList <+: key.toList ∧
    (key ∈ [deprecatedKey, commentKey, strategyKey, indexMethodKey, interleaveKey, unloggedKey] ∨
      storageParameterStart.toList <+: key.toList ∨ extensionStart.toList <+: key.toList)))

theorem Key.ofText_of_not_understood {key : String} (h : ¬Understood key) :
    ofText key = .foreign ∨ ofText key = .unknown := by
  rw [Understood, not_and_or] at h
  rcases h with hforeign | hunknown
  · exact .inl (ofText_of_foreign hforeign)
  · simp only [List.mem_cons, List.not_mem_nil, or_false, not_or] at hunknown
    obtain ⟨hsingle, hstorage, hextension⟩ := hunknown
    rw [ofText]
    split
    · exact .inl rfl
    · simp [after?_eq_none hstorage, after?_eq_none hextension, hsingle]

end Annotation

/-- The value under a key. A key that is missing says no more than one whose value is null. -/
def AnnotationBag.value (bag : AnnotationBag) (key : String) : Value := (bag.get? key).getD .null

def OrderedMap.restrict {α : Type} (m : OrderedMap α) (p : String → Prop) [DecidablePred p] :
    OrderedMap α where
  entries := m.entries.filter fun entry => p entry.1
  nodup_keys := (List.filter_sublist.map Prod.fst).nodup m.nodup_keys

namespace AnnotationView

open Annotation

variable {view next : AnnotationView}

theorem add_of_not_understood {key : String} (h : ¬Understood key) (value : Value) :
    view.add key value = .ok view := by
  rcases Key.ofText_of_not_understood h with hkey | hkey <;> rw [add, hkey]

theorem addAll_filter_understood (entries : List (String × Value)) :
    view.addAll (entries.filter fun entry => Understood entry.1) = view.addAll entries := by
  induction entries generalizing view with
  | nil => rfl
  | cons entry rest ih =>
    obtain ⟨key, value⟩ := entry
    by_cases h : Understood key
    · rw [List.filter_cons_of_pos (by simpa using h), addAll, addAll]
      cases view.add key value with
      | error fault => rfl
      | ok middle => exact ih
    · rw [List.filter_cons_of_neg (by simpa using h), ih, addAll, add_of_not_understood h]
      rfl

theorem ofBag_restrict_understood (bag : AnnotationBag) :
    ofBag (bag.restrict Understood) = ofBag bag := by
  rw [ofBag, OrderedMap.restrict, addAll_filter_understood, ofBag]

/-! ## Parts that one key decides -/

/-- What an entry does to the parts of a view that one key decides each. -/
structure Sets (key : String) (value : Value) (view next : AnnotationView) : Prop where
  comment : if Key.ofText key = .comment then readText commentKey value = .ok next.comment
    else next.comment = view.comment
  strategy : if Key.ofText key = .strategy then readStrategy value = .ok next.strategy
    else next.strategy = view.strategy
  indexMethod : if Key.ofText key = .indexMethod then
      readText indexMethodKey value = .ok next.indexMethod
    else next.indexMethod = view.indexMethod
  interleave : if Key.ofText key = .interleave then readInterleave value = .ok next.interleave
    else next.interleave = view.interleave
  unlogged : if Key.ofText key = .unlogged then readBool unloggedKey value = .ok next.unlogged
    else next.unlogged = view.unlogged

theorem sets_of_add {key : String} {value : Value} (h : view.add key value = .ok next) :
    Sets key value view next := by
  rw [add] at h
  cases hkind : Key.ofText key <;> simp only [hkind] at h
  case deprecated => cases h
  case foreign | unknown | storageParameter =>
    cases h
    constructor <;> simp [hkind]
  case extension | strategy | interleave =>
    obtain ⟨a, ha, hset⟩ := Result.bind_eq_ok_iff.1 h
    obtain rfl := Result.pure_eq_ok_iff.1 hset
    constructor <;> simp [hkind, ha]
  case comment | indexMethod | unlogged =>
    obtain rfl := (Key.ofText_eq_iff_of_single rfl).1 hkind
    obtain ⟨a, ha, hset⟩ := Result.bind_eq_ok_iff.1 h
    obtain rfl := Result.pure_eq_ok_iff.1 hset
    constructor <;> simp [hkind, ha]

section Part

variable {α : Type} {kind : Key} {single : String} {get : AnnotationView → α}
  {read : Value → Except Fault α} {entries : List (String × Value)}

theorem eq_of_addAll_of_notMem (hsingle : kind.single? = some single)
    (hadd : ∀ {key value view next}, view.add key value = .ok next →
      if Key.ofText key = kind then read value = .ok (get next) else get next = get view)
    (hmem : single ∉ Entries.keys entries) (h : view.addAll entries = .ok next) :
    get next = get view := by
  induction entries generalizing view with
  | nil =>
    cases h
    rfl
  | cons entry rest ih =>
    obtain ⟨middle, hentry, hmore⟩ := addAll_cons_eq_ok_iff.1 h
    rw [Entries.keys_cons, List.mem_cons, not_or] at hmem
    have hsame := hadd hentry
    rw [if_neg fun hkind => hmem.1 ((Key.ofText_eq_iff_of_single hsingle).1 hkind).symm] at hsame
    exact (ih hmem.2 hmore).trans hsame

/-- A part that only one kind of key changes is what the value of this key says; where the key is
missing, the part stays as it is, as if its value were null. -/
theorem read_getD_lookup (hsingle : kind.single? = some single)
    (hadd : ∀ {key value view next}, view.add key value = .ok next →
      if Key.ofText key = kind then read value = .ok (get next) else get next = get view)
    (hkeys : (Entries.keys entries).Nodup) (hnull : read .null = .ok (get view))
    (h : view.addAll entries = .ok next) :
    read ((entries.lookup single).getD .null) = .ok (get next) := by
  induction entries generalizing view with
  | nil =>
    cases h
    exact hnull
  | cons entry rest ih =>
    obtain ⟨middle, hentry, hmore⟩ := addAll_cons_eq_ok_iff.1 h
    obtain ⟨hnew, hkeys⟩ := List.nodup_cons.1 hkeys
    have hset := hadd hentry
    rw [List.lookup_cons]
    by_cases hkey : single = entry.1
    · -- Behind the key nothing changes the part any more.
      have hlast : get next = get middle := eq_of_addAll_of_notMem hsingle hadd (hkey ▸ hnew) hmore
      rw [if_pos ((Key.ofText_eq_iff_of_single hsingle).2 hkey.symm)] at hset
      rw [beq_iff_eq.2 hkey, hlast]
      exact hset
    · rw [if_neg fun hkind => hkey ((Key.ofText_eq_iff_of_single hsingle).1 hkind).symm] at hset
      rw [beq_false_of_ne hkey]
      exact ih hkeys (hset ▸ hnull) hmore

end Part

/-! ## Whole bags -/

/-- The view says what the bag says, key by key. -/
structure Reads (bag : AnnotationBag) (view : AnnotationView) : Prop where
  current : deprecatedKey ∉ bag.keys
  comment : readText commentKey (bag.value commentKey) = .ok view.comment
  strategy : readStrategy (bag.value strategyKey) = .ok view.strategy
  indexMethod : readText indexMethodKey (bag.value indexMethodKey) = .ok view.indexMethod
  interleave : readInterleave (bag.value interleaveKey) = .ok view.interleave
  unlogged : readBool unloggedKey (bag.value unloggedKey) = .ok view.unlogged
  storage : view.storage.entries = bag.storageParameters
  extensions : bag.extensions.mapM (fun entry => readExtension entry.1 entry.2) =
    .ok view.extensions

variable {bag : AnnotationBag}

theorem reads_of_ofBag (h : ofBag bag = .ok view) : Reads bag view := by
  have hadded := ofBag_eq_ok_iff.1 h
  exact {
    current := deprecatedKey_notMem h
    comment := read_getD_lookup rfl (fun h => (sets_of_add h).comment) bag.nodup_keys rfl hadded
    strategy := read_getD_lookup rfl (fun h => (sets_of_add h).strategy) bag.nodup_keys rfl hadded
    indexMethod :=
      read_getD_lookup rfl (fun h => (sets_of_add h).indexMethod) bag.nodup_keys rfl hadded
    interleave :=
      read_getD_lookup rfl (fun h => (sets_of_add h).interleave) bag.nodup_keys rfl hadded
    unlogged := read_getD_lookup rfl (fun h => (sets_of_add h).unlogged) bag.nodup_keys rfl hadded
    storage := storage_ofBag h
    extensions := extensions_ofBag h }

theorem Reads.unique {other : AnnotationView} (h : Reads bag view) (hother : Reads bag other) :
    view = other := by
  have hcomment := h.comment.symm.trans hother.comment
  have hstrategy := h.strategy.symm.trans hother.strategy
  have hindex := h.indexMethod.symm.trans hother.indexMethod
  have hinterleave := h.interleave.symm.trans hother.interleave
  have hunlogged := h.unlogged.symm.trans hother.unlogged
  have hstorage := OrderedMap.ext (h.storage.trans hother.storage.symm)
  have hextensions := h.extensions.symm.trans hother.extensions
  cases view
  cases other
  simp_all

theorem Reads.exists_add (h : Reads bag view) {key : String} {value : Value}
    (hmem : (key, value) ∈ bag.entries) (before : AnnotationView) :
    ∃ next, before.add key value = .ok next := by
  have hvalue : bag.value key = value := by
    rw [AnnotationBag.value, OrderedMap.get?_eq_some_iff.2 hmem, Option.getD_some]
  have hfield {α : Type} {result : Except Fault α} {set : α → AnnotationView} {a : α}
      (h : result = .ok a) : ∃ next, (result >>= fun a => pure (set a)) = .ok next :=
    ⟨set a, Result.bind_eq_ok_iff.2 ⟨a, h, rfl⟩⟩
  rw [add]
  cases hkind : Key.ofText key
  case foreign | unknown | storageParameter => exact ⟨_, rfl⟩
  case deprecated =>
    obtain rfl := (Key.ofText_eq_iff_of_single rfl).1 hkind
    exact absurd (List.mem_map.2 ⟨_, hmem, rfl⟩) h.current
  case extension name =>
    have hextension : (name, value) ∈ bag.extensions :=
      List.mem_filterMap.2 ⟨_, hmem,
        extension?_eq_some_iff.2 ⟨Key.ofText_eq_extension_iff.1 hkind, rfl⟩⟩
    obtain ⟨extension, hread⟩ := Result.exists_mapM_iff.1 ⟨_, h.extensions⟩ _ hextension
    exact hfield hread
  case comment =>
    obtain rfl := (Key.ofText_eq_iff_of_single rfl).1 hkind
    exact hfield (hvalue ▸ h.comment)
  case strategy =>
    obtain rfl := (Key.ofText_eq_iff_of_single rfl).1 hkind
    exact hfield (hvalue ▸ h.strategy)
  case indexMethod =>
    obtain rfl := (Key.ofText_eq_iff_of_single rfl).1 hkind
    exact hfield (hvalue ▸ h.indexMethod)
  case interleave =>
    obtain rfl := (Key.ofText_eq_iff_of_single rfl).1 hkind
    exact hfield (hvalue ▸ h.interleave)
  case unlogged =>
    obtain rfl := (Key.ofText_eq_iff_of_single rfl).1 hkind
    exact hfield (hvalue ▸ h.unlogged)

theorem exists_addAll {entries : List (String × Value)}
    (h : ∀ entry ∈ entries, ∀ before : AnnotationView,
      ∃ next, before.add entry.1 entry.2 = .ok next)
    (view : AnnotationView) : ∃ next, view.addAll entries = .ok next := by
  induction entries generalizing view with
  | nil => exact ⟨view, rfl⟩
  | cons entry rest ih =>
    obtain ⟨hentry, hrest⟩ := List.forall_mem_cons.1 h
    obtain ⟨middle, hadd⟩ := hentry view
    obtain ⟨next, hnext⟩ := ih hrest middle
    exact ⟨next, addAll_cons_eq_ok_iff.2 ⟨middle, hadd, hnext⟩⟩

theorem ofBag_eq_ok_iff_reads : ofBag bag = .ok view ↔ Reads bag view := by
  refine ⟨reads_of_ofBag, fun h => ?_⟩
  obtain ⟨other, hother⟩ := exists_addAll (fun entry hmem => h.exists_add hmem) {}
  have hbag := ofBag_eq_ok_iff.2 hother
  rw [hbag, h.unique (reads_of_ofBag hbag)]

end AnnotationView

/-! ## The order of entries -/

open Annotation

namespace AnnotationBag

/-- What follows a fixed beginning in the keys that have it, in order. -/
def namesAfter (bag : AnnotationBag) (start : String) : List String :=
  bag.keys.filterMap (after? start)

variable {bag other : AnnotationBag}

theorem value_eq_of_perm (h : bag.entries.Perm other.entries) : bag.value = other.value := by
  funext key
  have hget : bag.get? key = other.get? key := by
    refine Option.ext fun value => ?_
    rw [OrderedMap.get?_eq_some_iff, OrderedMap.get?_eq_some_iff, h.mem_iff]
  rw [value, hget, value]

theorem eq_of_perm_of_map_eq {α β : Type} {f : α → β} {as bs : List α} (h : as.Perm bs)
    (hmap : as.map f = bs.map f) (hkeys : (as.map f).Nodup) : as = bs := by
  refine List.ext_getElem h.length_eq fun i ha hb => ?_
  refine List.inj_on_of_nodup_map hkeys (List.getElem_mem ha) (h.mem_iff.2 (List.getElem_mem hb)) ?_
  have hget := List.getElem_of_eq hmap (by simpa using ha)
  simpa using hget

theorem nodup_namesAfter (bag : AnnotationBag) (start : String) : (bag.namesAfter start).Nodup := by
  refine bag.nodup_keys.filterMap ?_
  intro key otherKey name hkey hother
  rw [after?_eq_some_iff.1 hkey, after?_eq_some_iff.1 hother]

theorem filterMap_after?_eq_of_perm {α : Type} {start : String} (content : String × Value → α)
    (h : bag.entries.Perm other.entries) (hnames : bag.namesAfter start = other.namesAfter start) :
    bag.entries.filterMap (fun entry => (after? start entry.1).map (·, content entry)) =
      other.entries.filterMap fun entry => (after? start entry.1).map (·, content entry) := by
  have hmap (bag : AnnotationBag) :
      (bag.entries.filterMap fun entry => (after? start entry.1).map (·, content entry)).map
        Prod.fst = bag.namesAfter start := by
    rw [namesAfter, OrderedMap.keys, Entries.keys, List.map_filterMap, List.filterMap_map]
    congr 1
    funext entry
    rw [Option.map_map]
    exact Option.map_id'
  refine eq_of_perm_of_map_eq (f := Prod.fst) (h.filterMap _) ?_ ?_
  · exact (hmap bag).trans (hnames.trans (hmap other).symm)
  · exact hmap bag ▸ nodup_namesAfter _ _

end AnnotationBag

namespace AnnotationView

variable {view : AnnotationView} {bag other : AnnotationBag}

theorem Reads.of_perm (h : Reads bag view) (hentries : bag.entries.Perm other.entries)
    (hstorage : bag.namesAfter storageParameterStart = other.namesAfter storageParameterStart)
    (hextensions : bag.namesAfter extensionStart = other.namesAfter extensionStart) :
    Reads other view := by
  have hvalue := AnnotationBag.value_eq_of_perm hentries
  have hparameters : bag.storageParameters = other.storageParameters :=
    AnnotationBag.filterMap_after?_eq_of_perm _ hentries hstorage
  have hrequests : bag.extensions = other.extensions :=
    AnnotationBag.filterMap_after?_eq_of_perm _ hentries hextensions
  exact {
    current := fun hmem => h.current ((hentries.map Prod.fst).mem_iff.2 hmem)
    comment := hvalue ▸ h.comment
    strategy := hvalue ▸ h.strategy
    indexMethod := hvalue ▸ h.indexMethod
    interleave := hvalue ▸ h.interleave
    unlogged := hvalue ▸ h.unlogged
    storage := hparameters ▸ h.storage
    extensions := hrequests ▸ h.extensions }

/-- Keys without a meaning do not count, whether they belong to others or are unknown. Neither does
the order of the entries as long as the storage parameters keep theirs and the extensions theirs:
the other bag can be read as well, as the same view. -/
theorem ofBag_restrict_and_perm (bag : AnnotationBag) :
    ofBag (bag.restrict Understood) = ofBag bag ∧
      ∀ other : AnnotationBag, bag.entries.Perm other.entries →
        bag.namesAfter storageParameterStart = other.namesAfter storageParameterStart →
        bag.namesAfter extensionStart = other.namesAfter extensionStart →
          ∀ view, ofBag bag = .ok view ↔ ofBag other = .ok view := by
  refine ⟨ofBag_restrict_understood bag, ?_⟩
  intro other hentries hstorage hextensions view
  rw [ofBag_eq_ok_iff_reads, ofBag_eq_ok_iff_reads]
  exact ⟨fun h => h.of_perm hentries hstorage hextensions,
    fun h => h.of_perm hentries.symm hstorage.symm hextensions.symm⟩

/-- The comment and the extension may stand behind the storage parameters or before them. -/
theorem ofBag_restrict_and_perm_rotated :
    let settings : List (String × Value) := [("Other:Key", .bool true),
      ("Postgres:StorageParameter:b", .integer 1), ("Postgres:StorageParameter:a", .integer 2)]
    let rest : List (String × Value) := [("Postgres:Comment", .text "both ways"),
      ("Postgres:New", .null), ("Postgres:Extension:hstore", .null)]
    let bag : AnnotationBag := ⟨settings ++ rest, by decide +kernel⟩
    let other : AnnotationBag := ⟨rest ++ settings, by decide +kernel⟩
    (bag.restrict Understood).keys = ["Postgres:StorageParameter:b", "Postgres:StorageParameter:a",
        "Postgres:Comment", "Postgres:Extension:hstore"] ∧
      bag.entries.Perm other.entries ∧
      bag.namesAfter storageParameterStart = other.namesAfter storageParameterStart ∧
      bag.namesAfter extensionStart = other.namesAfter extensionStart ∧
      ∃ view, ofBag bag = .ok view ∧ ofBag other = .ok view := by
  intro settings rest bag other
  have hentries : bag.entries.Perm other.entries := List.perm_append_comm
  have hstorage :
      bag.namesAfter storageParameterStart = other.namesAfter storageParameterStart := by
    decide +kernel
  have hextensions : bag.namesAfter extensionStart = other.namesAfter extensionStart := by
    decide +kernel
  obtain ⟨view, hview⟩ := Result.exists_eq_ok (show (ofBag bag).isOk = true by decide +kernel)
  exact ⟨by decide +kernel, hentries, hstorage, hextensions, view, hview,
    ((ofBag_restrict_and_perm bag).2 other hentries hstorage hextensions view).1 hview⟩

end AnnotationView

end SchemaDdl
