import SchemaDdl.Annotation.View

/-!
# What a view holds of a bag

Each entry of a bag adds to one part of the view and leaves the others alone.
So the storage parameters and the extensions of a view are those of the bag in
the order of the bag, and a bag whose keys all belong to others says nothing.
-/

namespace SchemaDdl

namespace Annotation

theorem after?_eq_some_iff {start key rest : String} :
    after? start key = some rest ↔ key = start ++ rest := by
  rw [after?, Option.map_eq_some_iff]
  constructor
  · rintro ⟨cs, hcs, rfl⟩
    have hkey : key.toList = start.toList ++ cs := Text.stripStart?_eq_some_iff.1 hcs
    apply String.toList_injective
    simp [hkey]
  · rintro rfl
    exact ⟨rest.toList, Text.stripStart?_eq_some_iff.2 (by simp), by simp⟩

theorem after?_append (start rest : String) : after? start (start ++ rest) = some rest :=
  after?_eq_some_iff.2 rfl

theorem after?_eq_none {start key : String} (h : ¬start.toList <+: key.toList) :
    after? start key = none := by
  cases hafter : after? start key with
  | none => rfl
  | some rest =>
    have hkey := after?_eq_some_iff.1 hafter
    exact absurd ⟨rest.toList, by simp [hkey]⟩ h

/-- No key asks for an extension and gives a storage parameter. -/
theorem after?_storageParameterStart (name : String) :
    after? storageParameterStart (extensionStart ++ name) = none := by
  apply after?_eq_none
  rintro ⟨rest, hrest⟩
  simp [extensionStart, storageParameterStart] at hrest

namespace Key

theorem ofText_of_foreign {key : String} (h : ¬space.toList <+: key.toList) :
    ofText key = .foreign := by
  rw [ofText, after?_eq_none h]
  rfl

theorem ofText_eq_storageParameter_iff {key name : String} :
    ofText key = .storageParameter name ↔ key = storageParameterStart ++ name := by
  constructor
  · intro h
    rw [ofText] at h
    repeat' split at h
    all_goals cases h
    exact after?_eq_some_iff.1 ‹_›
  · rintro rfl
    have hspace : after? space (storageParameterStart ++ name) =
        some ("StorageParameter:" ++ name) := by
      have hwords : storageParameterStart = space ++ "StorageParameter:" := by decide
      rw [hwords, String.append_assoc, after?_append]
    have hdeprecated : storageParameterStart ++ name ≠ deprecatedKey := by
      intro h
      have hletters := congrArg String.toList h
      simp [storageParameterStart, deprecatedKey] at hletters
    simp [ofText, hspace, hdeprecated, after?_append]

theorem ofText_eq_extension_iff {key name : String} :
    ofText key = .extension name ↔ key = extensionStart ++ name := by
  constructor
  · intro h
    rw [ofText] at h
    repeat' split at h
    all_goals cases h
    exact after?_eq_some_iff.1 ‹_›
  · rintro rfl
    have hspace : after? space (extensionStart ++ name) = some ("Extension:" ++ name) := by
      have hwords : extensionStart = space ++ "Extension:" := by decide
      rw [hwords, String.append_assoc, after?_append]
    have hdeprecated : extensionStart ++ name ≠ deprecatedKey := by
      intro h
      have hletters := congrArg String.toList h
      simp [extensionStart, deprecatedKey] at hletters
    simp [ofText, hspace, hdeprecated, after?_storageParameterStart, after?_append]

end Key

/-! ## The entries of a bag -/

def storageParameter? (entry : String × Value) : Option (String × String) :=
  (after? storageParameterStart entry.1).map fun name => (name, StorageParameters.valueText entry.2)

def extension? (entry : String × Value) : Option (String × Value) :=
  (after? extensionStart entry.1).map fun name => (name, entry.2)

theorem storageParameter?_eq_some_iff {entry : String × Value} {name text : String} :
    storageParameter? entry = some (name, text) ↔
      entry.1 = storageParameterStart ++ name ∧ StorageParameters.valueText entry.2 = text := by
  simp only [storageParameter?, Option.map_eq_some_iff, after?_eq_some_iff, Prod.mk.injEq]
  constructor
  · rintro ⟨_, hkey, rfl, htext⟩
    exact ⟨hkey, htext⟩
  · rintro ⟨hkey, htext⟩
    exact ⟨name, hkey, rfl, htext⟩

theorem extension?_eq_some_iff {entry : String × Value} {name : String} {value : Value} :
    extension? entry = some (name, value) ↔
      entry.1 = extensionStart ++ name ∧ entry.2 = value := by
  simp only [extension?, Option.map_eq_some_iff, after?_eq_some_iff, Prod.mk.injEq]
  constructor
  · rintro ⟨_, hkey, rfl, hvalue⟩
    exact ⟨hkey, hvalue⟩
  · rintro ⟨hkey, hvalue⟩
    exact ⟨name, hkey, rfl, hvalue⟩

theorem storageParameter?_eq_none {key : String}
    (h : ∀ name, Key.ofText key ≠ .storageParameter name) (value : Value) :
    storageParameter? (key, value) = none := by
  cases hafter : after? storageParameterStart key with
  | none => rw [storageParameter?, hafter, Option.map_none]
  | some name =>
    exact absurd (Key.ofText_eq_storageParameter_iff.2 (after?_eq_some_iff.1 hafter)) (h name)

theorem extension?_eq_none {key : String} (h : ∀ name, Key.ofText key ≠ .extension name)
    (value : Value) : extension? (key, value) = none := by
  cases hafter : after? extensionStart key with
  | none => rw [extension?, hafter, Option.map_none]
  | some name =>
    exact absurd (Key.ofText_eq_extension_iff.2 (after?_eq_some_iff.1 hafter)) (h name)

end Annotation

namespace AnnotationBag

def storageParameters (bag : AnnotationBag) : List (String × String) :=
  bag.entries.filterMap Annotation.storageParameter?

def extensions (bag : AnnotationBag) : List (String × Value) :=
  bag.entries.filterMap Annotation.extension?

def Foreign (bag : AnnotationBag) : Prop :=
  ∀ key ∈ bag.keys, ¬ Annotation.space.toList <+: key.toList

instance (bag : AnnotationBag) : Decidable bag.Foreign :=
  inferInstanceAs (Decidable (∀ key ∈ bag.keys, ¬ Annotation.space.toList <+: key.toList))

end AnnotationBag

theorem Entries.put_of_notMem {α : Type} {key : String} {value : α}
    {entries : List (String × α)} (h : key ∉ keys entries) :
    put key value entries = entries ++ [(key, value)] := by
  induction entries with
  | nil => rfl
  | cons entry rest ih =>
    obtain ⟨k, v⟩ := entry
    simp only [keys_cons, List.mem_cons, not_or] at h
    rw [put, if_neg (Ne.symm h.1), ih h.2, List.cons_append]

namespace AnnotationView

open Annotation

variable {view next : AnnotationView}

/-- What one entry does: it gives a storage parameter, asks for an extension, or changes neither. -/
theorem add_cases {key : String} {value : Value} (h : view.add key value = .ok next) :
    (∃ name text, storageParameter? (key, value) = some (name, text) ∧
      extension? (key, value) = none ∧
      next = { view with storage := view.storage.insert name text }) ∨
    (∃ name extension, storageParameter? (key, value) = none ∧
      extension? (key, value) = some (name, value) ∧ readExtension name value = .ok extension ∧
      next = { view with extensions := view.extensions ++ [extension] }) ∨
    (storageParameter? (key, value) = none ∧ extension? (key, value) = none ∧
      next.storage = view.storage ∧ next.extensions = view.extensions) := by
  rw [add] at h
  cases hkind : Key.ofText key <;> simp only [hkind] at h
  case deprecated => cases h
  case storageParameter name =>
    cases h
    obtain rfl := Key.ofText_eq_storageParameter_iff.1 hkind
    refine .inl ⟨name, _, storageParameter?_eq_some_iff.2 ⟨rfl, rfl⟩, ?_, rfl⟩
    exact extension?_eq_none (by simp [hkind]) value
  case extension name =>
    obtain ⟨extension, hread, hset⟩ := Result.bind_eq_ok_iff.1 h
    obtain rfl := Result.pure_eq_ok_iff.1 hset
    obtain rfl := Key.ofText_eq_extension_iff.1 hkind
    refine .inr (.inl ⟨name, extension, ?_, extension?_eq_some_iff.2 ⟨rfl, rfl⟩, hread, rfl⟩)
    exact storageParameter?_eq_none (by simp [hkind]) value
  case foreign | unknown =>
    cases h
    exact .inr (.inr ⟨storageParameter?_eq_none (by simp [hkind]) value,
      extension?_eq_none (by simp [hkind]) value, rfl, rfl⟩)
  -- Every other key that has a meaning sets a field of its own.
  case comment | strategy | indexMethod | interleave | unlogged =>
    obtain ⟨a, -, hset⟩ := Result.bind_eq_ok_iff.1 h
    obtain rfl := Result.pure_eq_ok_iff.1 hset
    exact .inr (.inr ⟨storageParameter?_eq_none (by simp [hkind]) value,
      extension?_eq_none (by simp [hkind]) value, rfl, rfl⟩)

theorem addAll_cons_eq_ok_iff {entry : String × Value} {rest : List (String × Value)} :
    view.addAll (entry :: rest) = .ok next ↔
      ∃ middle, view.add entry.1 entry.2 = .ok middle ∧ middle.addAll rest = .ok next := by
  rw [addAll]
  cases view.add entry.1 entry.2 with
  | error fault => simp [bind, Except.bind]
  | ok middle => simp [bind, Except.bind]

theorem addAll_ne_ok {entries : List (String × Value)} {entry : String × Value}
    (hmem : entry ∈ entries) (h : ∀ view next : AnnotationView, view.add entry.1 entry.2 ≠ .ok next)
    (view next : AnnotationView) : view.addAll entries ≠ .ok next := by
  intro hok
  induction entries generalizing view with
  | nil => cases hmem
  | cons first rest ih =>
    obtain ⟨middle, hadd, hrest⟩ := addAll_cons_eq_ok_iff.1 hok
    rcases List.mem_cons.1 hmem with rfl | hmem
    · exact h view middle hadd
    · exact ih hmem middle hrest

/-- The storage parameters of the entries follow those that the view holds already. -/
theorem storage_addAll {entries : List (String × Value)} (hkeys : (Entries.keys entries).Nodup)
    (hfresh : ∀ name ∈ view.storage.keys, storageParameterStart ++ name ∉ Entries.keys entries)
    (h : view.addAll entries = .ok next) :
    next.storage.entries = view.storage.entries ++ entries.filterMap storageParameter? := by
  induction entries generalizing view with
  | nil =>
    cases h
    simp
  | cons entry rest ih =>
    obtain ⟨middle, hadd, hrest⟩ := addAll_cons_eq_ok_iff.1 h
    obtain ⟨hkey, hkeys⟩ := List.nodup_cons.1 hkeys
    have hlater : ∀ name ∈ view.storage.keys,
        storageParameterStart ++ name ∉ Entries.keys rest := by
      intro name hname hmem
      exact hfresh name hname (List.mem_cons_of_mem _ hmem)
    rcases add_cases hadd with ⟨name, text, hsome, -, rfl⟩ | ⟨_, _, hnone, -, -, rfl⟩ |
      ⟨hnone, -, hsame, -⟩
    · -- The key of the entry occurs once, so that the parameter is new and goes to the end.
      have hname : entry.1 = storageParameterStart ++ name :=
        (storageParameter?_eq_some_iff.1 hsome).1
      have hentries : (view.storage.insert name text).entries =
          view.storage.entries ++ [(name, text)] := by
        apply Entries.put_of_notMem
        intro hmem
        apply hfresh name hmem
        rw [← hname]
        exact List.mem_cons_self
      rw [ih hkeys ?_ hrest, List.filterMap_cons_some hsome]
      · simp [hentries]
      · intro other hother hmem
        rw [OrderedMap.keys, hentries, Entries.keys, List.map_append] at hother
        rcases List.mem_append.1 hother with hother | hother
        · exact hlater other hother hmem
        · rw [List.mem_singleton.1 hother, ← hname] at hmem
          exact hkey hmem
    · rw [ih hkeys ?_ hrest, List.filterMap_cons_none hnone]
      exact hlater
    · rw [← hsame] at hlater
      rw [ih hkeys hlater hrest, List.filterMap_cons_none hnone, hsame]

/-- The extensions of the entries follow those that the view holds already. -/
theorem extensions_addAll {entries : List (String × Value)} (h : view.addAll entries = .ok next) :
    ∃ added, (entries.filterMap extension?).mapM (fun entry => readExtension entry.1 entry.2) =
        .ok added ∧ next.extensions = view.extensions ++ added := by
  induction entries generalizing view with
  | nil =>
    cases h
    exact ⟨[], rfl, (List.append_nil _).symm⟩
  | cons entry rest ih =>
    obtain ⟨middle, hadd, hrest⟩ := addAll_cons_eq_ok_iff.1 h
    obtain ⟨added, hreads, hadded⟩ := ih hrest
    rcases add_cases hadd with ⟨_, _, -, hnone, rfl⟩ | ⟨name, extension, -, hsome, hread, rfl⟩ |
      ⟨-, hnone, -, hsame⟩
    · rw [List.filterMap_cons_none hnone]
      exact ⟨added, hreads, hadded⟩
    · rw [List.filterMap_cons_some hsome, List.mapM_cons, hread, hreads]
      exact ⟨extension :: added, rfl, by simpa using hadded⟩
    · rw [List.filterMap_cons_none hnone]
      exact ⟨added, hreads, by rw [hadded, hsame]⟩

theorem addAll_of_foreign {entries : List (String × Value)}
    (h : ∀ key ∈ Entries.keys entries, ¬space.toList <+: key.toList) :
    view.addAll entries = .ok view := by
  induction entries with
  | nil => rfl
  | cons entry rest ih =>
    rw [Entries.keys_cons, List.forall_mem_cons] at h
    have hadd : view.add entry.1 entry.2 = .ok view := by
      rw [add, Key.ofText_of_foreign h.1]
    exact addAll_cons_eq_ok_iff.2 ⟨view, hadd, ih h.2⟩

theorem ofBag_eq_ok_iff {bag : AnnotationBag} :
    ofBag bag = .ok view ↔ ({} : AnnotationView).addAll bag.entries = .ok view := by
  rw [ofBag]
  cases ({} : AnnotationView).addAll bag.entries with
  | error fault => simp
  | ok other => simp

theorem deprecatedKey_notMem {bag : AnnotationBag} (h : ofBag bag = .ok view) :
    deprecatedKey ∉ bag.keys := by
  intro hmem
  obtain ⟨entry, hentry, hkey⟩ := List.mem_map.1 hmem
  have hdeprecated : Key.ofText deprecatedKey = .deprecated := by decide
  refine addAll_ne_ok hentry (fun view next hadd => ?_) _ _ (ofBag_eq_ok_iff.1 h)
  rw [add, hkey, hdeprecated] at hadd
  cases hadd

theorem storage_ofBag {bag : AnnotationBag} (h : ofBag bag = .ok view) :
    view.storage.entries = bag.storageParameters := by
  have hstorage := storage_addAll bag.nodup_keys (fun name hname => by cases hname)
    (ofBag_eq_ok_iff.1 h)
  exact hstorage.trans (List.nil_append _)

theorem extensions_ofBag {bag : AnnotationBag} (h : ofBag bag = .ok view) :
    bag.extensions.mapM (fun entry => readExtension entry.1 entry.2) = .ok view.extensions := by
  obtain ⟨added, hreads, hadded⟩ := extensions_addAll (ofBag_eq_ok_iff.1 h)
  rw [hadded]
  exact hreads

theorem ofBag_of_foreign {bag : AnnotationBag} (h : bag.Foreign) : ofBag bag = .ok {} :=
  ofBag_eq_ok_iff.2 (addAll_of_foreign h)

end AnnotationView

end SchemaDdl
