import SchemaDdl.OrderedMap
import SchemaDdl.Value

/-!
# Storage parameters

Named settings of a table, each with its value as it is written in SQL. Two
sets of them differ by assignments and by names that are gone.
-/

namespace SchemaDdl

abbrev StorageParameters := OrderedMap String

namespace StorageParameters

/-- The text of a value. Truth values are in lower case here. -/
def valueText : Value → String
  | .bool b => if b then "true" else "false"
  | value => value.literal

/-- The assignments that are new or differ from `old`, in order. -/
def changedFrom (new old : StorageParameters) : List (String × String) :=
  new.entries.filter fun (name, value) => old.get? name != some value

/-- The names of `old` that are gone, in the order of `old`. -/
def removedFrom (new old : StorageParameters) : List String :=
  old.keys.filter fun name => (new.get? name).isNone

def pairsText (pairs : List (String × String)) : String :=
  String.intercalate ", " (pairs.map fun (name, value) => name ++ "=" ++ value)

def text (parameters : StorageParameters) : String := pairsText parameters.entries

end StorageParameters

end SchemaDdl
