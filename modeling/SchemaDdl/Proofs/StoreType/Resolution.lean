import SchemaDdl.StoreType.Memo

/-!
# Resolution without a memo

What a store type query means does not depend on what was asked before. A
memo is sound when it only remembers what resolution finds; a sound memo
answers as resolution does and stays sound.
-/

namespace SchemaDdl

namespace StoreName

def scalarDescriptor? (key : List Char) : Option Descriptor :=
  (Descriptor.builtin? (String.ofList key)).or (sizedDescriptor? key)

def arrayDescriptor? (key : List Char) : Option Descriptor :=
  (arrayElement? key).bind fun element =>
    (scalarDescriptor? (Text.trim element)).map Descriptor.arrayOf

/-- The type that a name in the form of its key has. -/
def descriptor? (key : List Char) : Option Descriptor :=
  (scalarDescriptor? key).or (arrayDescriptor? key)

end StoreName

namespace LogicalType

def arrayDescriptor? (element : Option Descriptor) : Option Descriptor :=
  element.bind fun d => if d.isArray then none else some d.arrayOf

def descriptor? : LogicalType → Option Descriptor
  | .scalar t => t.descriptor?
  | .array element => arrayDescriptor? element.descriptor?
  | .list element => arrayDescriptor? element.descriptor?

end LogicalType

namespace TypeQuery

def resolve (q : TypeQuery) : Option Descriptor :=
  (q.storeName.bind fun name => StoreName.descriptor? (StoreName.key name)).or <|
    q.logical.bind fun t =>
      (q.size.bind fun size => Memo.sizedLogical? t size q.fixedLength).or t.descriptor?

end TypeQuery

namespace Memo

/-- Every type in the memo is the one that its name or its logical type has. -/
structure Sound (memo : Memo) : Prop where
  byName : ∀ {key d}, memo.recallName? (String.ofList key) = some d →
    StoreName.descriptor? key = some d
  byLogical : ∀ {t d}, memo.recallLogical? t = some d → t.descriptor? = some d

def Answers (given : Option Descriptor × Memo) (d : Option Descriptor) : Prop :=
  given.1 = d ∧ given.2.Sound

theorem sound_empty : empty.Sound where
  byName := by
    intro key d h
    simp [recallName?, empty] at h
  byLogical := by
    intro t d h
    simp [recallLogical?, empty] at h

theorem lookup_kept {α : Type} [BEq α] [LawfulBEq α] {entries : List (α × Descriptor)}
    {key other : α} {d found : Descriptor}
    (h : (entries ++ [(key, d)]).lookup other = some found) :
    entries.lookup other = some found ∨ other = key ∧ d = found := by
  rw [List.lookup_append, Option.or_eq_some_iff] at h
  rcases h with hold | ⟨-, hnew⟩
  · exact .inl hold
  · rw [List.lookup_cons] at hnew
    split at hnew
    · next heq => exact .inr ⟨eq_of_beq heq, Option.some.inj hnew⟩
    · cases hnew

theorem Sound.keepName {memo : Memo} {key : List Char} {d : Descriptor} (h : memo.Sound)
    (hd : StoreName.descriptor? key = some d) : (memo.keepName (String.ofList key) d).Sound where
  byName := by
    intro other found hfound
    rcases lookup_kept hfound with hold | ⟨hkey, rfl⟩
    · exact h.byName hold
    · rwa [String.ofList_injective hkey]
  byLogical := h.byLogical

theorem Sound.keepLogical {memo : Memo} {t : LogicalType} {d : Descriptor} (h : memo.Sound)
    (hd : t.descriptor? = some d) : (memo.keepLogical t d).Sound where
  byName := h.byName
  byLogical := by
    intro other found hfound
    rcases lookup_kept hfound with hold | ⟨rfl, rfl⟩
    · exact h.byLogical hold
    · exact hd

theorem answers_rememberName {memo : Memo} {key : List Char}
    {derive : Memo → Option Descriptor × Memo} (h : memo.Sound)
    (hderive : Answers (derive memo) (StoreName.descriptor? key)) :
    Answers (memo.rememberName key derive) (StoreName.descriptor? key) := by
  rw [rememberName]
  split
  · next d hd => exact ⟨(h.byName hd).symm, h⟩
  · obtain ⟨hfound, hsound⟩ := hderive
    split
    · next d later hd =>
      rw [hd] at hfound hsound
      exact ⟨hfound, hsound.keepName hfound.symm⟩
    · next later hd =>
      rw [hd] at hfound hsound
      exact ⟨hfound, hsound⟩

theorem answers_findScalar {memo : Memo} (h : memo.Sound) (key : List Char) :
    Answers (memo.findScalar key) (StoreName.scalarDescriptor? key) := by
  rw [findScalar, StoreName.scalarDescriptor?]
  cases hbuiltin : Descriptor.builtin? (String.ofList key) with
  | some d => exact ⟨rfl, h⟩
  | none =>
    cases hsized : StoreName.sizedDescriptor? key with
    | none => exact ⟨rfl, h⟩
    | some d =>
      have hkey : StoreName.descriptor? key = some d := by
        simp [StoreName.descriptor?, StoreName.scalarDescriptor?, hbuiltin, hsized]
      have hanswer : Answers (memo.rememberName key fun memo => (some d, memo))
          (StoreName.descriptor? key) := answers_rememberName h ⟨hkey.symm, h⟩
      rwa [hkey] at hanswer

/-- An array is only looked for under a name that is no scalar. -/
theorem answers_findArray {memo : Memo} (h : memo.Sound) {key : List Char}
    (hscalar : StoreName.scalarDescriptor? key = none) :
    Answers (memo.findArray key) (StoreName.arrayDescriptor? key) := by
  have hkey : StoreName.descriptor? key = StoreName.arrayDescriptor? key := by
    rw [StoreName.descriptor?, hscalar, Option.none_or]
  rw [findArray]
  cases helement : StoreName.arrayElement? key with
  | none => exact ⟨by simp [StoreName.arrayDescriptor?, helement], h⟩
  | some element =>
    rw [← hkey]
    refine answers_rememberName h ?_
    obtain ⟨hfound, hsound⟩ := answers_findScalar h (Text.trim element)
    rw [hkey, StoreName.arrayDescriptor?, helement, Option.bind_some, ← hfound]
    cases hfind : memo.findScalar (Text.trim element) with
    | mk found later =>
      rw [hfind] at hsound
      cases found with
      | none => exact ⟨rfl, hsound⟩
      | some d => exact ⟨rfl, hsound⟩

theorem answers_findName {memo : Memo} (h : memo.Sound) (name : String) :
    Answers (memo.findName name) (StoreName.descriptor? (StoreName.key name)) := by
  obtain ⟨hfound, hsound⟩ := answers_findScalar h (StoreName.key name)
  rw [findName, StoreName.descriptor?, ← hfound]
  cases hfind : memo.findScalar (StoreName.key name) with
  | mk found later =>
    rw [hfind] at hfound hsound
    cases found with
    | none => exact answers_findArray hsound hfound.symm
    | some d => exact ⟨rfl, hsound⟩

theorem answers_findElements {memo : Memo} (h : memo.Sound) {t : LogicalType}
    {given : Option Descriptor × Memo} {element : Option Descriptor}
    (ht : t.descriptor? = LogicalType.arrayDescriptor? element) (hgiven : Answers given element) :
    Answers (findLogical.findElements memo t given) t.descriptor? := by
  obtain ⟨hfound, hsound⟩ := hgiven
  unfold findLogical.findElements
  split
  · next d hd => exact ⟨(h.byLogical hd).symm, h⟩
  · split
    · next d later =>
      subst hfound
      split
      · next harray => exact ⟨by simp [ht, LogicalType.arrayDescriptor?, harray], hsound⟩
      · next harray =>
        have hd : t.descriptor? = some d.arrayOf := by
          simp [ht, LogicalType.arrayDescriptor?, harray]
        exact ⟨hd.symm, hsound.keepLogical hd⟩
    · subst hfound
      exact ⟨by simp [ht, LogicalType.arrayDescriptor?], hsound⟩

theorem answers_findLogical {memo : Memo} (h : memo.Sound) (t : LogicalType) :
    Answers (memo.findLogical t) t.descriptor? := by
  induction t with
  | scalar t => exact ⟨rfl, h⟩
  | array element ih => exact answers_findElements h rfl ih
  | list element ih => exact answers_findElements h rfl ih

/-- A sound memo answers every query as resolution does, and stays sound. -/
theorem answers_find {memo : Memo} (h : memo.Sound) (q : TypeQuery) :
    Answers (memo.find q) q.resolve := by
  have hname : Answers (q.storeName.elim (none, memo) memo.findName)
      (q.storeName.bind fun name => StoreName.descriptor? (StoreName.key name)) := by
    cases q.storeName with
    | none => exact ⟨rfl, h⟩
    | some name => exact answers_findName h name
  obtain ⟨hfound, hsound⟩ := hname
  rw [find, TypeQuery.resolve, ← hfound]
  cases hfind : q.storeName.elim (none, memo) memo.findName with
  | mk found later =>
    rw [hfind] at hsound
    cases found with
    | some d => exact ⟨rfl, hsound⟩
    | none =>
      cases q.logical with
      | none => exact ⟨rfl, hsound⟩
      | some t =>
        simp only [Option.none_or, Option.bind_some]
        cases q.size.bind fun size => sizedLogical? t size q.fixedLength with
        | some d => exact ⟨rfl, hsound⟩
        | none => exact answers_findLogical hsound t

def after (queries : List TypeQuery) : Memo :=
  queries.foldl (fun memo q => (memo.find q).2) empty

theorem sound_after (queries : List TypeQuery) : (after queries).Sound := by
  have hfrom (memo : Memo) (h : memo.Sound) :
      (queries.foldl (fun memo q => (memo.find q).2) memo).Sound := by
    induction queries generalizing memo with
    | nil => exact h
    | cons q queries ih => exact ih _ (answers_find h q).2
  exact hfrom empty sound_empty

theorem find_storeName (asked : List TypeQuery) (name : String) :
    ((after asked).find { storeName := some name }).1 =
      StoreName.descriptor? (StoreName.key name) := by
  obtain ⟨hfound, -⟩ := answers_find (sound_after asked) { storeName := some name }
  rw [hfound]
  simp [TypeQuery.resolve]

end Memo

end SchemaDdl
