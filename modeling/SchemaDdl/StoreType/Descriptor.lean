import SchemaDdl.Text.Parts
import SchemaDdl.Value

/-!
# Store type descriptors

A descriptor is a type of the server together with the way its literals are
written. A size becomes part of the type's name.
-/

namespace SchemaDdl

inductive LiteralStyle where
  | plain
  /-- After the name of its type, as in `DATE '2024-01-01'`. -/
  | labelled (label : String)
  | bits
  deriving DecidableEq, Repr

namespace LiteralStyle

def literal (style : LiteralStyle) (s : String) : String :=
  match style with
  | plain => Value.quote s
  | labelled label => label ++ " " ++ Value.quote s
  | bits => "B" ++ Value.quote s

end LiteralStyle

/-- Whether a name is one of an integer type, in any case. -/
def isIntegerStoreType (storeType : String) : Bool :=
  match storeType.map Char.toLower with
  | "smallint" | "int2" | "integer" | "int" | "int4" | "bigint" | "int8" => true
  | _ => false

inductive Descriptor where
  | scalar (storeType : String) (size : Option Nat) (style : LiteralStyle)
  | array (storeType : String) (size : Option Nat) (element : Descriptor)
  deriving DecidableEq, Repr

namespace Descriptor

def storeType : Descriptor → String
  | scalar storeType _ _ => storeType
  | array storeType _ _ => storeType

def size? : Descriptor → Option Nat
  | scalar _ size _ => size
  | array _ size _ => size

def isArray : Descriptor → Bool
  | scalar _ _ _ => false
  | array _ _ _ => true

def element? : Descriptor → Option Descriptor
  | scalar _ _ _ => none
  | array _ _ element => some element

/-- The part of a name before its first parenthesis. -/
def beforeSize (storeType : String) : String :=
  match Text.splitFirst? '(' storeType.toList with
  | some (before, _) => String.ofList before
  | none => storeType

/-- The name without a size; the name of an array stays whole. -/
def baseName : Descriptor → String
  | scalar storeType _ _ => beforeSize storeType
  | array storeType _ _ => storeType

def sizedName (base : String) (size : Nat) : String := base ++ "(" ++ Numeral.ofNat size ++ ")"

def resize (d : Descriptor) (size : Nat) : Descriptor :=
  match d with
  | scalar _ _ style => scalar (sizedName d.baseName size) (some size) style
  | array _ _ element => array (sizedName d.baseName size) (some size) element

def arrayOf (element : Descriptor) : Descriptor :=
  array (element.storeType ++ "[]") none element

def isInteger : Descriptor → Bool
  | scalar storeType _ _ => isIntegerStoreType storeType
  | array _ _ _ => false

def literal : Descriptor → Value → String
  | _, .null => "NULL"
  | array storeType _ element, .array items =>
    "ARRAY[" ++ String.intercalate "," (items.map fun item => element.literal item) ++ "]::" ++
      storeType
  | scalar _ _ style, .text s => style.literal s
  | _, value => value.literal

end Descriptor

end SchemaDdl
