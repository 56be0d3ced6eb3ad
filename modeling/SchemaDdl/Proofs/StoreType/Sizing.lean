import SchemaDdl.StoreType.Descriptor

/-!
# Sizes behind names

Types are made from a name by putting sizes and the brackets of arrays behind
it, in any order. The base name of a scalar ends before its first parenthesis,
whatever name it was made from, so a size takes the place of the one before.
An array keeps its name whole, since the parentheses in it may be those of its
elements. So its own size stays as well, and the next one is put behind it.
-/

namespace SchemaDdl

inductive Suffix where
  | size (n : Nat)
  | array
  deriving DecidableEq, Repr

namespace Suffix

def text : Suffix → String
  | size n => "(" ++ Numeral.ofNat n ++ ")"
  | array => "[]"

def texts (suffixes : List Suffix) : String := String.join (suffixes.map text)

@[simp] theorem texts_nil : texts [] = "" := rfl

@[simp] theorem texts_cons (s : Suffix) (suffixes : List Suffix) :
    texts (s :: suffixes) = s.text ++ texts suffixes := by
  rw [texts, texts, List.map_cons, String.join_cons]

end Suffix

namespace Descriptor

def named (name : String) (style : LiteralStyle) : Descriptor := scalar name none style

def extend (d : Descriptor) : Suffix → Descriptor
  | .size n => d.resize n
  | .array => d.arrayOf

def extendAll (d : Descriptor) (suffixes : List Suffix) : Descriptor := suffixes.foldl extend d

@[simp] theorem extendAll_nil (d : Descriptor) : d.extendAll [] = d := rfl

@[simp] theorem extendAll_cons (d : Descriptor) (s : Suffix) (suffixes : List Suffix) :
    d.extendAll (s :: suffixes) = (d.extend s).extendAll suffixes := rfl

@[simp] theorem isArray_resize (d : Descriptor) (size : Nat) :
    (d.resize size).isArray = d.isArray := by cases d <;> rfl

@[simp] theorem storeType_resize (d : Descriptor) (size : Nat) :
    (d.resize size).storeType = sizedName d.baseName size := by cases d <;> rfl

/-! ## Names with a size -/

theorem sizedName_eq (base : String) (size : Nat) :
    sizedName base size = base ++ (Suffix.size size).text := by
  rw [sizedName, Suffix.text, String.append_assoc, String.append_assoc, String.append_assoc]

theorem sizedName_ne (base : String) (size : Nat) : sizedName base size ≠ base := by
  intro h
  have hlength := congrArg String.length h
  -- The opening parenthesis alone makes the name longer.
  have hopen : "(".length = 1 := rfl
  simp only [sizedName, String.length_append] at hlength
  omega

theorem sizedName_inj {base other : String} {size : Nat} :
    sizedName base size = sizedName other size ↔ base = other := by
  rw [sizedName_eq, sizedName_eq, String.append_left_inj]

theorem beforeSize_sizedName {base : String} (h : '(' ∉ base.toList) (size : Nat) :
    beforeSize (sizedName base size) = base := by
  have hchars : (sizedName base size).toList =
      base.toList ++ '(' :: ((Numeral.ofNat size).toList ++ [')']) := by
    simp [sizedName]
  rw [beforeSize, hchars, Text.splitFirst?_append h]
  exact String.ofList_toList

/-- No parenthesis is left in front of a size, whichever name the size was cut from. -/
theorem open_notMem_beforeSize (name : String) : '(' ∉ (beforeSize name).toList := by
  rw [beforeSize]
  split
  · next before after hsplit =>
    rw [String.toList_ofList]
    exact Text.notMem_of_splitFirst? hsplit
  · next hsplit => exact Text.splitFirst?_eq_none_iff.1 hsplit

/-! ## Scalars -/

theorem baseName_resize_of_scalar {d : Descriptor} (h : d.isArray = false) (size : Nat) :
    (d.resize size).baseName = d.baseName := by
  cases d with
  | scalar storeType _ _ => exact beforeSize_sizedName (open_notMem_beforeSize storeType) size
  | array => cases h

theorem resize_resize_of_scalar {d : Descriptor} (h : d.isArray = false) (first last : Nat) :
    (d.resize first).resize last = d.resize last := by
  have hbase := baseName_resize_of_scalar h first
  cases d with
  | scalar storeType _ style =>
    rw [resize] at hbase
    simp only [resize, hbase]
  | array => cases h

-- All that stood behind the first parenthesis goes, not the size alone.
example :
    ((named "timestamp(3) without time zone" .plain).extendAll [.size 6, .size 0]).storeType =
      "timestamp(0)" := by decide +kernel

/-! ## Arrays -/

theorem baseName_of_isArray {d : Descriptor} (h : d.isArray = true) :
    d.baseName = d.storeType := by
  cases d with
  | scalar => cases h
  | array => rfl

theorem storeType_extend_of_isArray {d : Descriptor} (h : d.isArray = true) (s : Suffix) :
    (d.extend s).storeType = d.storeType ++ s.text := by
  cases s with
  | size n =>
    rw [extend, storeType_resize, baseName_of_isArray h, sizedName_eq]
  | array => rfl

theorem isArray_extend (d : Descriptor) (s : Suffix) :
    (d.extend s).isArray = (d.isArray || s == .array) := by
  cases s with
  | size n => simp [extend]
  | array => simp [extend, arrayOf, isArray]

theorem isArray_extendAll (d : Descriptor) (suffixes : List Suffix) :
    (d.extendAll suffixes).isArray = (d.isArray || suffixes.contains .array) := by
  induction suffixes generalizing d with
  | nil => simp
  | cons s suffixes ih =>
    rw [extendAll_cons, ih, isArray_extend, List.contains_cons, Bool.or_assoc,
      BEq.comm (a := Suffix.array)]

theorem isArray_extendAll_named (name : String) (style : LiteralStyle) (suffixes : List Suffix) :
    ((named name style).extendAll suffixes).isArray = true ↔ Suffix.array ∈ suffixes := by
  rw [isArray_extendAll, named, isArray, Bool.false_or, List.contains_iff_mem]

theorem storeType_extendAll_of_isArray {d : Descriptor} (h : d.isArray = true)
    (suffixes : List Suffix) :
    (d.extendAll suffixes).storeType = d.storeType ++ Suffix.texts suffixes := by
  induction suffixes generalizing d with
  | nil => simp
  | cons s suffixes ih =>
    have hextended : (d.extend s).isArray = true := by rw [isArray_extend, h, Bool.true_or]
    rw [extendAll_cons, ih hextended, storeType_extend_of_isArray h, Suffix.texts_cons,
      String.append_assoc]

/-! ## Which sizes are replaced -/

theorem baseName_resize_iff {d : Descriptor} {size : Nat} :
    (d.resize size).baseName = d.baseName ↔ d.isArray = false := by
  refine ⟨fun hbase => ?_, fun h => baseName_resize_of_scalar h size⟩
  refine Bool.eq_false_iff.2 fun h => ?_
  -- The base name of the resized array is its whole name, the size included.
  have hresized : (d.resize size).isArray = true := by rw [isArray_resize, h]
  rw [baseName_of_isArray hresized, storeType_resize] at hbase
  exact sizedName_ne _ _ hbase

theorem resize_resize_iff {d : Descriptor} {first last : Nat} :
    (d.resize first).resize last = d.resize last ↔ d.isArray = false := by
  refine ⟨fun hsame => ?_, fun h => resize_resize_of_scalar h first last⟩
  -- Both names end with the last size, so what is in front of it is the same.
  have hnames := congrArg storeType hsame
  rw [storeType_resize, storeType_resize, sizedName_inj] at hnames
  exact baseName_resize_iff.1 hnames

/-- However a type was made from a name, its sizes are replaced, and its base name does without
them, exactly if it is no array. A size of an array stays in its name for good. -/
theorem resize_extendAll_iff (name : String) (style : LiteralStyle) (suffixes : List Suffix)
    (first last : Nat) :
    let d := (named name style).extendAll suffixes
    ((d.resize first).resize last = d.resize last ↔ Suffix.array ∉ suffixes) ∧
      ((d.resize first).baseName = d.baseName ↔ Suffix.array ∉ suffixes) ∧
      (Suffix.array ∈ suffixes → ∀ later, ((d.resize first).extendAll later).storeType =
        d.storeType ++ Suffix.texts (.size first :: later)) := by
  intro d
  have hscalar : d.isArray = false ↔ Suffix.array ∉ suffixes := by
    rw [← Bool.not_eq_true, isArray_extendAll_named]
  refine ⟨resize_resize_iff.trans hscalar, baseName_resize_iff.trans hscalar, ?_⟩
  intro hmem later
  have harray : d.isArray = true := (isArray_extendAll_named name style suffixes).2 hmem
  exact storeType_extendAll_of_isArray harray (.size first :: later)

/-- The size of the elements is replaced as long as there are no brackets behind it. -/
theorem resize_extendAll_iff_elements :
    let suffixes : List Suffix := [.size 20, .size 10, .array]
    let d := (named "bit(8) varying" .bits).extendAll suffixes
    Suffix.array ∈ suffixes ∧ d.storeType = "bit(10)[]" ∧
      ((d.resize 5).extendAll [.array, .size 7]).storeType = "bit(10)[](5)[](7)" := by
  intro suffixes d
  have hmem : Suffix.array ∈ suffixes := by decide
  have hname : d.storeType = "bit(10)[]" := by decide +kernel
  refine ⟨hmem, hname, ?_⟩
  rw [(resize_extendAll_iff "bit(8) varying" .bits suffixes 5 7).2.2 hmem, hname]
  decide +kernel

/-- A second size of an array of integers is put behind the first, which the base name holds too. -/
theorem resize_integers :
    let d := (named "integer" .plain).extendAll [.array]
    (d.resize 5).resize 7 ≠ d.resize 7 ∧ (d.resize 5).baseName ≠ d.baseName ∧
      ((d.resize 5).resize 7).storeType = "integer[](5)(7)" ∧
      (d.resize 7).storeType = "integer[](7)" ∧
      (d.resize 5).baseName = "integer[](5)" ∧ d.baseName = "integer[]" := by
  decide +kernel

end Descriptor

end SchemaDdl
