import SchemaDdl.StoreType.Builtin

/-!
# Finding a store type

A query names a store type, a logical type, or both. What it takes to answer
one is pure; the sized and array types that were derived for a name, and the
arrays derived for logical types, are kept in a memo and looked up there first.
-/

namespace SchemaDdl

structure TypeQuery where
  storeName : Option String := none
  logical : Option LogicalType := none
  size : Option Nat := none
  fixedLength : Bool := false
  deriving DecidableEq, Repr

namespace TypeQuery

def describe (q : TypeQuery) : String :=
  match q.storeName, q.logical, q.size with
  | some name, _, _ => "store type '" ++ name ++ "'"
  | none, some t, some size =>
    "logical type '" ++ t.text ++ "' with size " ++ Numeral.ofNat size
  | none, some t, none => "logical type '" ++ t.text ++ "'"
  | none, none, _ => "empty type query"

def required (q : TypeQuery) : Option Descriptor → Result Descriptor
  | some d => .ok d
  | none => .error (.typeNotFound q.describe)

end TypeQuery

namespace StoreName

/-- The form under which a name is looked up: trimmed, in lower case. Only ASCII letters are
changed, since no other letter has a lower-case form that occurs in a built-in name. -/
def key (name : String) : List Char := (Text.trim name.toList).map Char.toLower

/-- The base and the size of `base(size)`; the size is a positive number of 32 bits. -/
def sized? (key : List Char) : Option (String × Nat) := do
  let (base, rest) ← Text.splitFirst? '(' key
  let inner ← Text.stripEnd? ")".toList rest
  let size ← Numeral.readUpTo? Numeral.word32Limit (Text.trim inner)
  if size = 0 then none
  else some (String.ofList (Text.trimEnd base), size)

/-- The name of the element in the name of an array: after `_`, or else before `[]`. -/
def arrayElement? (key : List Char) : Option (List Char) :=
  match key with
  | '_' :: element => some element
  | _ => Text.stripEnd? "[]".toList key

def sizedDescriptor? (key : List Char) : Option Descriptor := do
  let (base, size) ← sized? key
  if base ∈ Builtin.sizable then (Descriptor.builtin? base).map (·.resize size) else none

end StoreName

/-- The types that earlier queries derived. -/
structure Memo where
  byName : List (String × Descriptor) := []
  byLogical : List (LogicalType × Descriptor) := []
  deriving DecidableEq, Repr

namespace Memo

def empty : Memo := {}

def count (memo : Memo) : Nat := memo.byName.length + memo.byLogical.length

def recallName? (memo : Memo) (name : String) : Option Descriptor := memo.byName.lookup name

def recallLogical? (memo : Memo) (t : LogicalType) : Option Descriptor := memo.byLogical.lookup t

def keepName (memo : Memo) (name : String) (d : Descriptor) : Memo :=
  { memo with byName := memo.byName ++ [(name, d)] }

def keepLogical (memo : Memo) (t : LogicalType) (d : Descriptor) : Memo :=
  { memo with byLogical := memo.byLogical ++ [(t, d)] }

/-- The type remembered for a name, or else the one that `derive` finds, which is kept. -/
def rememberName (memo : Memo) (key : List Char)
    (derive : Memo → Option Descriptor × Memo) : Option Descriptor × Memo :=
  match memo.recallName? (String.ofList key) with
  | some d => (some d, memo)
  | none =>
    match derive memo with
    | (some d, memo) => (some d, memo.keepName (String.ofList key) d)
    | (none, memo) => (none, memo)

/-- A built-in type or one with a size; never an array. -/
def findScalar (memo : Memo) (key : List Char) : Option Descriptor × Memo :=
  match Descriptor.builtin? (String.ofList key) with
  | some d => (some d, memo)
  | none =>
    match StoreName.sizedDescriptor? key with
    | none => (none, memo)
    | some d => memo.rememberName key fun memo => (some d, memo)

/-- An array of a scalar type. -/
def findArray (memo : Memo) (key : List Char) : Option Descriptor × Memo :=
  match StoreName.arrayElement? key with
  | none => (none, memo)
  | some element =>
    memo.rememberName key fun memo =>
      match memo.findScalar (Text.trim element) with
      | (some d, memo) => (some d.arrayOf, memo)
      | (none, memo) => (none, memo)

def findName (memo : Memo) (name : String) : Option Descriptor × Memo :=
  match memo.findScalar (StoreName.key name) with
  | (some d, memo) => (some d, memo)
  | (none, memo) => memo.findArray (StoreName.key name)

/-- The sized type of a text or bit vector. It is not kept, and the size may be zero. -/
def sizedLogical? (t : LogicalType) (size : Nat) (fixedLength : Bool) : Option Descriptor :=
  let base? :=
    if t.isTextLike then some (if fixedLength then "character" else "character varying")
    else if t.isBitVectorLike then some (if fixedLength then "bit" else "bit varying")
    else none
  (base?.bind Descriptor.builtin?).map (·.resize size)

def findLogical (memo : Memo) : LogicalType → Option Descriptor × Memo
  | .scalar t => (t.descriptor?, memo)
  | .array element => findElements memo (.array element) (memo.findLogical element)
  | .list element => findElements memo (.list element) (memo.findLogical element)
where
  findElements (memo : Memo) (t : LogicalType) (element : Option Descriptor × Memo) :
      Option Descriptor × Memo :=
    match memo.recallLogical? t with
    | some d => (some d, memo)
    | none =>
      match element with
      | (some d, memo) =>
        -- There are no arrays of arrays.
        if d.isArray then (none, memo) else (some d.arrayOf, memo.keepLogical t d.arrayOf)
      | (none, memo) => (none, memo)

/-- The name is tried first, then the logical type with its size, then without it. -/
def find (memo : Memo) (q : TypeQuery) : Option Descriptor × Memo :=
  match q.storeName.elim (none, memo) memo.findName with
  | (some d, memo) => (some d, memo)
  | (none, memo) =>
    match q.logical with
    | none => (none, memo)
    | some t =>
      match q.size.bind fun size => sizedLogical? t size q.fixedLength with
      | some d => (some d, memo)
      | none => memo.findLogical t

def require (memo : Memo) (q : TypeQuery) : Result Descriptor × Memo :=
  let (found, memo) := memo.find q
  (q.required found, memo)

end Memo

end SchemaDdl
