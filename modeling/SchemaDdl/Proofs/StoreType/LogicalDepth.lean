import SchemaDdl.Proofs.StoreType.Resolution

/-!
# Which logical types are stored

Every scalar has a store type, and so has every array of a scalar. Nothing
stores an array of arrays.
-/

namespace SchemaDdl

theorem ScalarType.exists_descriptor? (t : ScalarType) :
    ∃ d, t.descriptor? = some d ∧ d.isArray = false := by
  cases t <;> exact ⟨_, rfl, rfl⟩

namespace LogicalType

theorem arrayDescriptor?_eq_some_iff {element : Option Descriptor} {d : Descriptor} :
    arrayDescriptor? element = some d ↔
      ∃ e, element = some e ∧ e.isArray = false ∧ e.arrayOf = d := by
  rw [arrayDescriptor?, Option.bind_eq_some_iff]
  refine exists_congr fun e => and_congr_right fun _ => ?_
  cases e.isArray <;> simp

/-- The type of a logical type that is stored is an array exactly if the logical type is one. -/
theorem depth_eq_of_descriptor? {t : LogicalType} {d : Descriptor} (h : t.descriptor? = some d) :
    t.depth = if d.isArray then 1 else 0 := by
  induction t generalizing d with
  | scalar t =>
    obtain ⟨e, he, harray⟩ := t.exists_descriptor?
    obtain rfl : e = d := Option.some.inj (he.symm.trans h)
    rw [harray]
    rfl
  | array element ih =>
    obtain ⟨e, he, hscalar, rfl⟩ := arrayDescriptor?_eq_some_iff.1 h
    rw [depth, ih he, hscalar]
    rfl
  | list element ih =>
    obtain ⟨e, he, hscalar, rfl⟩ := arrayDescriptor?_eq_some_iff.1 h
    rw [depth, ih he, hscalar]
    rfl

theorem exists_arrayDescriptor? {element : LogicalType} (h : element.depth = 0) :
    ∃ d, arrayDescriptor? element.descriptor? = some d := by
  cases element with
  | scalar t =>
    obtain ⟨e, he, hscalar⟩ := t.exists_descriptor?
    exact ⟨e.arrayOf, arrayDescriptor?_eq_some_iff.2 ⟨e, he, hscalar, rfl⟩⟩
  | array element => cases h
  | list element => cases h

theorem exists_descriptor?_iff {t : LogicalType} : (∃ d, t.descriptor? = some d) ↔ t.depth ≤ 1 := by
  constructor
  · rintro ⟨d, hd⟩
    rw [depth_eq_of_descriptor? hd]
    split <;> decide
  · intro h
    cases t with
    | scalar t =>
      obtain ⟨d, hd, -⟩ := t.exists_descriptor?
      exact ⟨d, hd⟩
    | array element => exact exists_arrayDescriptor? (Nat.le_zero.1 (Nat.le_of_succ_le_succ h))
    | list element => exact exists_arrayDescriptor? (Nat.le_zero.1 (Nat.le_of_succ_le_succ h))

end LogicalType

namespace TypeQuery

/-- Only texts and bit vectors have a size of their own, and those are scalars. -/
theorem depth_of_sizedLogical? {t : LogicalType} {size : Nat} {fixedLength : Bool} {d : Descriptor}
    (h : Memo.sizedLogical? t size fixedLength = some d) : t.depth = 0 := by
  rw [Memo.sizedLogical?] at h
  by_cases htext : t.isTextLike
  · rw [of_decide_eq_true htext]
    rfl
  · by_cases hbits : t.isBitVectorLike
    · rw [of_decide_eq_true hbits]
      rfl
    · simp [htext, hbits] at h

/-- A size does not make more logical types stored. -/
theorem exists_resolve_iff {t : LogicalType} {size : Option Nat} {fixedLength : Bool} :
    (∃ d, ({ logical := some t, size, fixedLength } : TypeQuery).resolve = some d) ↔
      t.depth ≤ 1 := by
  rw [← LogicalType.exists_descriptor?_iff]
  cases hsized : size.bind fun size => Memo.sizedLogical? t size fixedLength with
  | none => simp [resolve, hsized]
  | some d =>
    obtain ⟨n, -, hn⟩ := Option.bind_eq_some_iff.1 hsized
    have hdepth : t.depth ≤ 1 := by simp [depth_of_sizedLogical? hn]
    simp [resolve, hsized, LogicalType.exists_descriptor?_iff.2 hdepth]

end TypeQuery

end SchemaDdl
