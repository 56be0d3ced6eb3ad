import SchemaDdl.Error
import SchemaDdl.Text.Affix
import SchemaDdl.Text.Blank

/-!
# Logical types

The types of an application's values. A scalar has a short name; `T[]` is an
array and `list<T>` an ordered list of `T`.
-/

namespace SchemaDdl

inductive ScalarType where
  | bool | bytes | float32 | float64 | decimal | uuid | int16 | int32 | int64 | string | char
  | dateTime | dateTimeOffset | timeSpan | date | time | json | ipAddress | ipNetwork | macAddress
  | bitVec | dictionary | point
  deriving DecidableEq, Repr, Inhabited

namespace ScalarType

def name : ScalarType → String
  | bool => "bool"
  | bytes => "bytes"
  | float32 => "f32"
  | float64 => "f64"
  | decimal => "decimal"
  | uuid => "uuid"
  | int16 => "i16"
  | int32 => "i32"
  | int64 => "i64"
  | string => "string"
  | char => "char"
  | dateTime => "datetime"
  | dateTimeOffset => "datetimeoffset"
  | timeSpan => "timespan"
  | date => "date"
  | time => "time"
  | json => "json"
  | ipAddress => "ipaddr"
  | ipNetwork => "ipnetwork"
  | macAddress => "macaddr"
  | bitVec => "bitvec"
  | dictionary => "dictionary"
  | point => "point"

def all : List ScalarType :=
  [bool, bytes, float32, float64, decimal, uuid, int16, int32, int64, string, char, dateTime,
    dateTimeOffset, timeSpan, date, time, json, ipAddress, ipNetwork, macAddress, bitVec,
    dictionary, point]

theorem mem_all (t : ScalarType) : t ∈ all := by cases t <;> decide

/-- The scalar of a name, in any case of its ASCII letters. -/
def ofName? (cs : List Char) : Option ScalarType :=
  let lower := String.ofList (cs.map Char.toLower)
  all.find? fun t => t.name = lower

end ScalarType

inductive LogicalType where
  | scalar (t : ScalarType)
  | array (element : LogicalType)
  | list (element : LogicalType)
  deriving DecidableEq, Repr

namespace LogicalType

instance : Inhabited LogicalType := ⟨.scalar .int64⟩

def text : LogicalType → String
  | scalar t => t.name
  | array element => element.text ++ "[]"
  | list element => "list<" ++ element.text ++ ">"

/-- What stands between `list<` and a closing `>`. -/
def listElement? (cs : List Char) : Option (List Char) :=
  (Text.stripStart? "list<".toList cs).bind (Text.stripEnd? ">".toList)

/-- Reads a type. White space around each layer does not count. -/
def read (cs : List Char) : Result LogicalType :=
  -- The ending `[]` is taken before `list<`: in `list<x>[]` the brackets are the outer layer.
  match _array : Text.stripEnd? "[]".toList (Text.trim cs) with
  | some element => (read element).map array
  | none =>
    match _list : listElement? (Text.trim cs) with
    | some element => (read element).map list
    | none =>
      match ScalarType.ofName? (Text.trim cs) with
      | some t => .ok (scalar t)
      | none =>
        .error (.config ("unknown logical type '" ++ String.ofList (Text.trim cs) ++ "'"))
termination_by cs.length
decreasing_by
  · have h := congrArg List.length (Text.stripEnd?_eq_some_iff.1 _array)
    have := Text.length_trim_le cs
    simp at h
    omega
  · obtain ⟨rest, hstart, hend⟩ := Option.bind_eq_some_iff.1 _list
    have h₁ := congrArg List.length (Text.stripStart?_eq_some_iff.1 hstart)
    have h₂ := congrArg List.length (Text.stripEnd?_eq_some_iff.1 hend)
    have := Text.length_trim_le cs
    simp at h₁ h₂
    omega

def parse (s : String) : Result LogicalType := read s.toList

def element? : LogicalType → Option LogicalType
  | scalar _ => none
  | array element => some element
  | list element => some element

def depth : LogicalType → Nat
  | scalar _ => 0
  | array element => element.depth + 1
  | list element => element.depth + 1

def innermost : LogicalType → ScalarType
  | scalar t => t
  | array element => element.innermost
  | list element => element.innermost

/-- Types whose size bounds a character string. -/
def isTextLike (t : LogicalType) : Bool := t = scalar .string

/-- Types whose size bounds a bit string. -/
def isBitVectorLike (t : LogicalType) : Bool := t = scalar .bitVec

end LogicalType

end SchemaDdl
