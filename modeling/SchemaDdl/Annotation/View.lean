import SchemaDdl.Annotation.Key
import SchemaDdl.Annotation.Storage
import SchemaDdl.Error
import SchemaDdl.Text.Blank

/-!
# What annotations say

The annotations of an operation are an open bag of keys and values. The view
is what they mean: it is built entry by entry, and the first entry that has
no meaning is an error.
-/

namespace SchemaDdl

abbrev AnnotationBag := OrderedMap Value

inductive GenerationStrategy where
  | none
  | serial
  /-- As an identity that an insert may override. -/
  | identityByDefault
  /-- As an identity that an insert cannot override. -/
  | identityAlways
  deriving DecidableEq, Repr

namespace GenerationStrategy

def name : GenerationStrategy → String
  | none => "None"
  | serial => "SerialColumn"
  | identityByDefault => "IdentityByDefaultColumn"
  | identityAlways => "IdentityAlwaysColumn"

def all : List GenerationStrategy := [none, serial, identityByDefault, identityAlways]

def isIdentity : GenerationStrategy → Bool
  | identityByDefault => true
  | identityAlways => true
  | _ => false

end GenerationStrategy

/-- The table in which the rows of another are interleaved, and the columns they share. -/
structure Interleave where
  schema : Option String
  table : String
  columns : List String
  deriving DecidableEq, Repr

structure Extension where
  schema : Option String
  name : String
  version : Option String
  deriving DecidableEq, Repr

namespace Annotation

inductive Fault where
  | deprecatedKey
  | unknownStrategy (name : String)
  | strategyNotText (value : Value)
  | interleave (detail : String)
  | extensionNotText (name : String) (value : Value)
  | notText (key : String) (value : Value)
  | notBool (key : String) (value : Value)

def Fault.text : Fault → String
  | deprecatedKey =>
    "The annotation '" ++ Annotation.deprecatedKey ++ "' is no longer supported; use '" ++
      strategyKey ++ "' with 'SerialColumn' or an identity strategy instead"
  | unknownStrategy name =>
    "Unknown value generation strategy '" ++ name ++ "' in " ++ strategyKey
  | strategyNotText value => strategyKey ++ " must be a strategy name, got " ++ value.literal
  | interleave detail => interleaveKey ++ " must be 'schema,table,column,...': " ++ detail
  | extensionNotText name value =>
    extensionStart ++ name ++ " must be 'schema,name,version', got " ++ value.literal
  | notText key value => key ++ " must be a string, got " ++ value.literal
  | notBool key value => key ++ " must be a boolean, got " ++ value.literal

def readText (key : String) : Value → Except Fault (Option String)
  | .null => .ok none
  | .text s => .ok (some s)
  | value => .error (.notText key value)

def readBool (key : String) : Value → Except Fault Bool
  | .null => .ok false
  | .bool b => .ok b
  | value => .error (.notBool key value)

def readStrategy : Value → Except Fault GenerationStrategy
  | .null => .ok .none
  | .text s =>
    match GenerationStrategy.all.find? fun strategy => strategy.name = s with
    | some strategy => .ok strategy
    | none => .error (.unknownStrategy s)
  | value => .error (.strategyNotText value)

def present? (part : String) : Option String := if part = "" then none else some part

/-- The parts of a text between commas, without the white space around each. -/
def commaParts (s : String) : List String :=
  (Text.split ',' s.toList).map fun part => String.ofList (Text.trim part)

def interleaveParts : Value → Except Fault (List String)
  | .text s => .ok (commaParts s)
  | .array items => items.mapM fun item =>
    match item with
    | .text s => .ok (Text.trimmed s)
    | other => .error (.interleave other.literal)
  | other => .error (.interleave other.literal)

/-- A schema that may be empty, a table, and columns of which empty ones do not count. -/
def interleaveOfParts (parts : List String) : Except Fault Interleave :=
  match present? (parts.getD 1 "") with
  | none => .error (.interleave "missing parent table")
  | some table =>
    .ok {
      schema := present? (parts.headD "")
      table
      columns := (parts.drop 2).filter (· ≠ "") }

def readInterleave : Value → Except Fault (Option Interleave)
  | .null => .ok none
  | value => do
    let parts ← interleaveParts value
    let interleave ← interleaveOfParts parts
    pure (some interleave)

/-- A schema, a name and a version, each of which may be empty; the key has the name then. -/
def extensionOfParts (name : String) (parts : List String) : Extension where
  schema := present? (parts.headD "")
  name := (present? (parts.getD 1 "")).getD name
  version := present? (parts.getD 2 "")

def readExtension (name : String) : Value → Except Fault Extension
  | .null => .ok (extensionOfParts name [])
  | .text s => .ok (extensionOfParts name (commaParts s))
  | value => .error (.extensionNotText name value)

end Annotation

structure AnnotationView where
  comment : Option String := none
  strategy : GenerationStrategy := .none
  indexMethod : Option String := none
  storage : StorageParameters := .empty
  interleave : Option Interleave := none
  unlogged : Bool := false
  extensions : List Extension := []

namespace AnnotationView

def add (view : AnnotationView) (key : String) (value : Value) :
    Except Annotation.Fault AnnotationView :=
  match Annotation.Key.ofText key with
  | .foreign => .ok view
  | .unknown => .ok view
  | .deprecated => .error .deprecatedKey
  | .storageParameter name =>
    .ok { view with storage := view.storage.insert name (StorageParameters.valueText value) }
  | .extension name => do
    let extension ← Annotation.readExtension name value
    pure { view with extensions := view.extensions ++ [extension] }
  | .comment => do
    let comment ← Annotation.readText key value
    pure { view with comment }
  | .strategy => do
    let strategy ← Annotation.readStrategy value
    pure { view with strategy }
  | .indexMethod => do
    let indexMethod ← Annotation.readText key value
    pure { view with indexMethod }
  | .interleave => do
    let interleave ← Annotation.readInterleave value
    pure { view with interleave }
  | .unlogged => do
    let unlogged ← Annotation.readBool key value
    pure { view with unlogged }

def addAll (view : AnnotationView) : List (String × Value) → Except Annotation.Fault AnnotationView
  | [] => .ok view
  | (key, value) :: rest => do
    let next ← view.add key value
    next.addAll rest

/-- Reads a bag, or says which entry has no meaning. -/
def ofBag (bag : AnnotationBag) : Result AnnotationView :=
  match ({} : AnnotationView).addAll bag.entries with
  | .ok view => .ok view
  | .error fault => .error (.config fault.text)

end AnnotationView

end SchemaDdl
