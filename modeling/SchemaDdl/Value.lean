import SchemaDdl.Binary
import SchemaDdl.Calendar
import SchemaDdl.Decimal
import SchemaDdl.Text.Doubled
import SchemaDdl.Uuid

/-!
# Values and their literals

A value is a constant of a migration: a column default, a bound, a comment, a
storage parameter. It is never bound as a parameter but written into the SQL
text, so each kind of value has a literal that needs no type around it.
-/

namespace SchemaDdl

inductive Value where
  | null
  | bool (b : Bool)
  | smallint (n : Int16)
  | integer (n : Int32)
  | bigint (n : Int64)
  | real (x : Binary .binary32)
  | double (x : Binary .binary64)
  | text (s : String)
  | bytes (bs : List UInt8)
  | uuid (u : Uuid)
  | decimal (d : Decimal)
  | dateTime (t : DateTime)
  | offsetDateTime (t : OffsetDateTime)
  | date (d : Date)
  | time (t : TimeOfDay)
  | array (items : List Value)
  deriving Inhabited

namespace Value

def quote (s : String) : String := Text.enclose '\'' s

def boolLiteral (b : Bool) : String := if b then "TRUE" else "FALSE"

/-- The values that are no numbers to SQL are written as texts. -/
def binaryLiteral : Binary .binary64 → String
  | .nan => "'NaN'"
  | .infinite false => "'Infinity'"
  | .infinite true => "'-Infinity'"
  | .finite x => x.text

def byteDigits (b : UInt8) : List Char :=
  [(Numeral.digitChar (b.toNat / 16)).toUpper, (Numeral.digitChar (b.toNat % 16)).toUpper]

def bytesLiteral (bs : List UInt8) : String :=
  "BYTEA E'\\\\x" ++ String.ofList (bs.flatMap byteDigits) ++ "'"

mutual

/-- The literal of a value on its own. -/
def literal : Value → String
  | null => "NULL"
  | bool b => boolLiteral b
  | smallint n => Numeral.ofInt n.toInt
  | integer n => Numeral.ofInt n.toInt
  | bigint n => Numeral.ofInt n.toInt
  | real x => binaryLiteral x.widen
  | double x => binaryLiteral x
  | text s => quote s
  | bytes bs => bytesLiteral bs
  | uuid u => "'" ++ u.text ++ "'"
  | decimal d => d.text
  | dateTime t => "TIMESTAMP '" ++ t.text ++ "'"
  | offsetDateTime t => "TIMESTAMPTZ '" ++ t.text ++ "'"
  | date d => "DATE '" ++ d.text ++ "'"
  | time t => "TIME '" ++ t.text ++ "'"
  | array items => "ARRAY[" ++ String.intercalate "," (literals items) ++ "]"

def literals : List Value → List String
  | [] => []
  | item :: items => item.literal :: literals items

end

@[simp] theorem literals_eq_map (items : List Value) : literals items = items.map literal := by
  induction items with
  | nil => rfl
  | cons item items ih => simp [literals, ih]

def isNull : Value → Bool
  | null => true
  | _ => false

end Value

end SchemaDdl
