import SchemaDdl.Text.Affix

/-!
# Annotation keys

The keys of annotations are texts. Those of this generator begin with one
fixed namespace; the rest belongs to others and is passed over.
-/

namespace SchemaDdl.Annotation

def space : String := "Postgres:"

def commentKey : String := "Postgres:Comment"
def strategyKey : String := "Postgres:ValueGenerationStrategy"
def indexMethodKey : String := "Postgres:IndexMethod"
def interleaveKey : String := "Postgres:InterleaveInParent"
def unloggedKey : String := "Postgres:UnloggedTable"
def storageParameterStart : String := "Postgres:StorageParameter:"
def extensionStart : String := "Postgres:Extension:"

/-- A marker of former times that says too little to be acted on. -/
def deprecatedKey : String := "Postgres:ValueGeneratedOnAdd"

inductive Key where
  | foreign
  | deprecated
  | storageParameter (name : String)
  | extension (name : String)
  | comment
  | strategy
  | indexMethod
  | interleave
  | unlogged
  | unknown
  deriving DecidableEq, Repr

def after? (start key : String) : Option String :=
  (Text.stripStart? start.toList key.toList).map String.ofList

def Key.ofText (key : String) : Key :=
  if (after? space key).isNone then .foreign
  else if key = deprecatedKey then .deprecated
  else
    match after? storageParameterStart key, after? extensionStart key with
    | some name, _ => .storageParameter name
    | none, some name => .extension name
    | none, none =>
      if key = commentKey then .comment
      else if key = strategyKey then .strategy
      else if key = indexMethodKey then .indexMethod
      else if key = interleaveKey then .interleave
      else if key = unloggedKey then .unlogged
      else .unknown

end SchemaDdl.Annotation
