import SchemaDdl.Annotation.View
import SchemaDdl.Document

/-!
# Values in documents

Scalars and lists of a document are values; maps are not. Integers are of 64
bits, and a larger one becomes the nearest floating-point number.
-/

namespace SchemaDdl

namespace Value

/-- An integer of 64 bits, or the nearest floating-point number. -/
def ofInt (n : Int) : Value :=
  if -9223372036854775808 ≤ n ∧ n ≤ 9223372036854775807 then .bigint (Int64.ofInt n)
  else .double (Binary.ofInt n)

mutual

def ofDocument? : Document → Option Value
  | .null => some .null
  | .bool b => some (.bool b)
  | .integer n => some (ofInt n)
  | .real x => some (.double x)
  | .text s => some (.text s)
  | .word s => some (.text s)
  | .list items => (ofDocuments? items).map .array
  | .map _ => none
  | .unreadable => none

def ofDocuments? : List Document → Option (List Value)
  | [] => some []
  | item :: items => do
    let value ← ofDocument? item
    let values ← ofDocuments? items
    pure (value :: values)

end

end Value

/-- The annotations that a map holds; a key that is repeated takes its last value. -/
def AnnotationBag.ofDocument? : Document → Option AnnotationBag
  | .map entries => do
    let pairs ← entries.mapM fun (key, d) => do
      let name ← key.text?
      let value ← Value.ofDocument? d
      pure (name, value)
    pure (OrderedMap.ofList pairs)
  | _ => none

end SchemaDdl
