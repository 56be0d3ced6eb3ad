/-!
# Maps in insertion order

A finite map from texts whose entries keep the order in which their keys came
first. Writing to a key that is there replaces its value in place, so no key
occurs twice.
-/

namespace SchemaDdl

namespace Entries

variable {α : Type}

/-- Writes to a key: in place if it is there, else at the end. -/
def put (key : String) (value : α) : List (String × α) → List (String × α)
  | [] => [(key, value)]
  | (k, v) :: rest => if k = key then (k, value) :: rest else (k, v) :: put key value rest

def keys (entries : List (String × α)) : List String := entries.map Prod.fst

@[simp] theorem keys_nil : keys ([] : List (String × α)) = [] := rfl

@[simp] theorem keys_cons (entry : String × α) (rest : List (String × α)) :
    keys (entry :: rest) = entry.1 :: keys rest := rfl

theorem keys_put (key : String) (value : α) (entries : List (String × α)) :
    keys (put key value entries) =
      if key ∈ keys entries then keys entries else keys entries ++ [key] := by
  induction entries with
  | nil => simp [put]
  | cons entry rest ih =>
    obtain ⟨k, v⟩ := entry
    by_cases h : k = key
    · simp [put, h]
    · by_cases hm : key ∈ keys rest
      · simp [put, h, ih, hm]
      · simp [put, h, Ne.symm h, ih, hm]

theorem nodup_keys_put {key : String} {value : α} {entries : List (String × α)}
    (h : (keys entries).Nodup) : (keys (put key value entries)).Nodup := by
  rw [keys_put]
  split
  · exact h
  · next hm =>
    refine List.nodup_append.2 ⟨h, by simp, ?_⟩
    intro a ha b hb hab
    rw [List.mem_singleton] at hb
    exact hm (hb ▸ hab ▸ ha)

theorem lookup_eq_some_iff {key : String} {value : α} {entries : List (String × α)}
    (h : (keys entries).Nodup) : entries.lookup key = some value ↔ (key, value) ∈ entries := by
  induction entries with
  | nil => simp
  | cons entry rest ih =>
    obtain ⟨k, v⟩ := entry
    obtain ⟨hk, hrest⟩ := List.nodup_cons.1 h
    rw [List.lookup_cons, List.mem_cons, ← ih hrest]
    by_cases hkey : key = k
    · subst hkey
      have hnone : rest.lookup key ≠ some value := fun hsome =>
        hk (List.mem_map.2 ⟨_, (ih hrest).1 hsome, rfl⟩)
      simp [hnone, eq_comm]
    · rw [beq_false_of_ne hkey]
      simp [hkey]

theorem isSome_lookup_iff {key : String} {entries : List (String × α)} :
    (entries.lookup key).isSome ↔ key ∈ keys entries := by
  induction entries with
  | nil => simp
  | cons entry rest ih =>
    obtain ⟨k, v⟩ := entry
    rw [List.lookup_cons, keys_cons, List.mem_cons, ← ih]
    by_cases hkey : key = k
    · simp [hkey]
    · rw [beq_false_of_ne hkey]
      simp [hkey]

end Entries

/-- A map whose entries are in the order of their first insertion. -/
structure OrderedMap (α : Type) where
  entries : List (String × α)
  nodup_keys : (Entries.keys entries).Nodup

namespace OrderedMap

variable {α : Type}

def empty : OrderedMap α := ⟨[], List.nodup_nil⟩

instance : Inhabited (OrderedMap α) := ⟨empty⟩

@[ext] theorem ext {m n : OrderedMap α} (h : m.entries = n.entries) : m = n := by
  cases m
  cases n
  cases h
  rfl

def insert (m : OrderedMap α) (key : String) (value : α) : OrderedMap α :=
  ⟨Entries.put key value m.entries, Entries.nodup_keys_put m.nodup_keys⟩

def ofList (entries : List (String × α)) : OrderedMap α :=
  entries.foldl (fun m (key, value) => m.insert key value) empty

def get? (m : OrderedMap α) (key : String) : Option α := m.entries.lookup key

def isEmpty (m : OrderedMap α) : Bool := m.entries.isEmpty

def size (m : OrderedMap α) : Nat := m.entries.length

def keys (m : OrderedMap α) : List String := Entries.keys m.entries

theorem get?_eq_some_iff {m : OrderedMap α} {key : String} {value : α} :
    m.get? key = some value ↔ (key, value) ∈ m.entries :=
  Entries.lookup_eq_some_iff m.nodup_keys

theorem isSome_get?_iff {m : OrderedMap α} {key : String} : (m.get? key).isSome ↔ key ∈ m.keys :=
  Entries.isSome_lookup_iff

end OrderedMap

end SchemaDdl
