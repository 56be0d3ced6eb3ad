import SchemaDdl.Proofs.StoreType.Canonical
import SchemaDdl.Proofs.StoreType.Sizing
import SchemaDdl.Proofs.StoreType.Transparency

/-!
# The shape of the types that are found

Types come from the table of built-in types, from a size behind a name or
beside a logical type, and from the marks and layers of arrays. Whichever way
one was found, it is a built-in type under its canonical name, perhaps with a
size, or an array of one of these. There are no deeper arrays.
-/

namespace SchemaDdl

namespace Descriptor

/-- A built-in type under its canonical name, which its size stands behind if it has one. -/
structure Standard (d : Descriptor) : Prop where
  isArray : d.isArray = false
  base : ∃ b ∈ Builtin.all, d.baseName = b.name
  storeType : d.storeType = d.size?.elim d.baseName (sizedName d.baseName)
  sizable : d.size?.isSome = true → d.baseName ∈ Builtin.sizableNames

/-- A standard type, or an array of such a type that has no size itself. -/
inductive Shaped : Descriptor → Prop where
  | standard {d : Descriptor} (h : d.Standard) : Shaped d
  | array {d element : Descriptor} (harray : d.isArray = true) (hsize : d.size? = none)
      (helement : d.element? = some element) (h : element.Standard)
      (hname : d.storeType = element.storeType ++ "[]") : Shaped d

theorem Standard.shaped_arrayOf {element : Descriptor} (h : element.Standard) :
    element.arrayOf.Shaped :=
  .array rfl rfl rfl h rfl

end Descriptor

namespace Builtin

open Descriptor

theorem standard_descriptor {b : Builtin} (hb : b ∈ all) : b.descriptor.Standard := by
  have hopen : '(' ∉ b.name.toList := not_mem_name hb List.mem_cons_self (by decide)
  have hbase : b.descriptor.baseName = b.name := beforeSize_eq_self hopen
  exact {
    isArray := rfl
    base := ⟨b, hb, hbase⟩
    storeType := hbase.symm
    sizable := fun h => nomatch h }

theorem standard_resize {b : Builtin} (hb : b ∈ all) (hsizable : b.name ∈ sizableNames)
    (size : Nat) : (b.descriptor.resize size).Standard := by
  have hopen : '(' ∉ b.name.toList := not_mem_name hb List.mem_cons_self (by decide)
  have hbase : (b.descriptor.resize size).baseName = b.name :=
    (baseName_resize_of_scalar rfl size).trans (beforeSize_eq_self hopen)
  refine { isArray := rfl, base := ⟨b, hb, hbase⟩, storeType := ?_, sizable := ?_ }
  · rw [hbase, resize_descriptor hb]
    rfl
  · intro _
    rwa [hbase]

end Builtin

namespace Descriptor

theorem standard_resize_of_builtin? {name : String} {d : Descriptor}
    (h : builtin? name = some d) (hsizable : name ∈ Builtin.sizable) (size : Nat) :
    (d.resize size).Standard := by
  obtain ⟨b, hb, hname, rfl⟩ := builtin?_eq_some_iff.1 h
  exact Builtin.standard_resize hb (Builtin.name_mem_sizableNames b hb name hname hsizable) size

end Descriptor

/-! ## Types of store type names -/

theorem ScalarName.standard {cs : List Char} {d : Descriptor} (h : ScalarName cs d) :
    d.Standard := by
  cases h with
  | builtin hb hname => exact Builtin.standard_descriptor hb
  | sized hb hname hbase =>
    rw [← Builtin.resize_descriptor hb]
    exact Builtin.standard_resize hb (Builtin.name_mem_sizableNames _ hb _ hname hbase) _

theorem TypeName.shaped {cs : List Char} {d : Descriptor} (h : TypeName cs d) : d.Shaped := by
  cases h with
  | scalar h => exact .standard h.standard
  | marked hgap h => exact h.standard.shaped_arrayOf
  | bracketed h hstart hgap => exact h.standard.shaped_arrayOf

/-! ## Types of logical types -/

theorem LogicalType.shaped {t : LogicalType} {d : Descriptor} (h : t.descriptor? = some d) :
    d.Shaped := by
  obtain ⟨cs, hname⟩ := exists_typeName h
  exact hname.shaped

/-! ## Types that are found -/

namespace TypeQuery

theorem standard_of_sizedLogical? {t : LogicalType} {size : Nat} {fixedLength : Bool}
    {d : Descriptor} (h : Memo.sizedLogical? t size fixedLength = some d) : d.Standard := by
  obtain ⟨e, he, rfl⟩ := Option.map_eq_some_iff.1 h
  obtain ⟨name, hname, hbuiltin⟩ := Option.bind_eq_some_iff.1 he
  refine Descriptor.standard_resize_of_builtin? hbuiltin ?_ size
  split at hname
  · cases hname
    cases fixedLength <;> decide
  · split at hname
    · cases hname
      cases fixedLength <;> decide
    · cases hname

theorem shaped_of_resolve {q : TypeQuery} {d : Descriptor} (h : q.resolve = some d) :
    d.Shaped := by
  rcases Option.or_eq_some_iff.1 h with hname | ⟨-, hlogical⟩
  · obtain ⟨name, -, hd⟩ := Option.bind_eq_some_iff.1 hname
    exact ((StoreName.descriptor?_eq_some_iff (StoreName.trimmed_key name)).1 hd).shaped
  · obtain ⟨t, -, hd⟩ := Option.bind_eq_some_iff.1 hlogical
    rcases Option.or_eq_some_iff.1 hd with hsized | ⟨-, hunsized⟩
    · obtain ⟨size, -, hd⟩ := Option.bind_eq_some_iff.1 hsized
      exact .standard (standard_of_sizedLogical? hd)
    · exact LogicalType.shaped hunsized

end TypeQuery

namespace Memo

/-- Whatever was asked before, every type that is found has one of the two shapes, and a logical
type without a size is found exactly if it has at most one layer of arrays and lists. -/
theorem shaped_serve (asked : List TypeRequest) (request : TypeRequest) :
    (∀ d, ((empty.serveAll asked).serve request).1 = .ok (some d) → d.Shaped) ∧
      ∀ t fixedLength, request.query = { logical := some t, fixedLength } →
        ((∃ d, ((empty.serveAll asked).serve request).1 = .ok (some d)) ↔ t.depth ≤ 1) := by
  rw [serve_eq_answer (sound_empty.serveAll asked)]
  simp only [TypeRequest.answer_eq_ok_some_iff]
  constructor
  · intro d hd
    exact TypeQuery.shaped_of_resolve hd
  · intro t fixedLength hquery
    rw [hquery]
    exact TypeQuery.exists_resolve_iff

/-- The array inside an array is kept when the outer one is refused, and shows in no answer. -/
theorem shaped_serve_nested :
    let nested : TypeRequest := .find { logical := some (.list (.array (.scalar .int32))) }
    let memo := empty.serveAll [.find { storeName := some "VarChar(10)[]" }, nested]
    (∃ d, (memo.serve (.find { storeName := some " _varchar ( 10 )" })).1 = .ok (some d) ∧
      d.Shaped) ∧
      ¬∃ d, (memo.serve nested).1 = .ok (some d) := by
  intro nested memo
  constructor
  · have hsome : (memo.find { storeName := some " _varchar ( 10 )" }).1.isSome = true := by
      decide +kernel
    obtain ⟨d, hd⟩ := Option.isSome_iff_exists.1 hsome
    have hserved : (memo.serve (.find { storeName := some " _varchar ( 10 )" })).1 =
        .ok (some d) := congrArg Except.ok hd
    exact ⟨d, hserved, (shaped_serve _ _).1 d hserved⟩
  · intro hfound
    have hdepth := ((shaped_serve _ nested).2 _ false rfl).1 hfound
    exact absurd hdepth (by decide)

end Memo

end SchemaDdl
