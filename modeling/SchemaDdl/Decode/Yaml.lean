import SchemaDdl.Decode.Operation
import SchemaDdl.Decode.Settings
import SchemaDdl.Yaml.Resolve

/-!
# Settings, models and operations in YAML

The three kinds of files. A plain scalar has a type in a list of operations
and is a text in the other two. An empty file is an empty list, or a map
without entries.
-/

namespace SchemaDdl

open Document

namespace Yaml

def required (x : Option α) : Result α :=
  match x with
  | some a => .ok a
  | none => .error .yaml

/-- A document of texts. An empty one is an empty word. -/
def openDocument? (s : String) : Option Document :=
  (parse? s).map fun graph => (graph.map Graph.openDocument).getD (.word "")

/-- How many containers may be open at once where types matter. -/
def maxDepth : Nat := 128

/-- A list of documents with types. Nothing can stand for an empty list. -/
def typedItems? (s : String) : Option (List Document) := do
  match ← parse? s with
  | none => some []
  | some graph =>
    match graph.root, ← graph.typedDocument? with
    | .scalar _ true "", _ => some []
    | .list _ _, .list items =>
      if depthOfItems items < maxDepth then some items else none
    | _, _ => none

end Yaml

def Settings.ofYaml (s : String) : Result Settings := do
  let settings ← Yaml.required ((Yaml.openDocument? s).bind Settings.ofDocument?)
  settings.validate
  pure settings

def Model.ofYaml (s : String) : Result Model :=
  Yaml.required ((Yaml.openDocument? s).bind Model.ofDocument?)

def Operation.listOfYaml (s : String) : Result (List Operation) :=
  Yaml.required ((Yaml.typedItems? s).bind fun items => items.mapM Operation.ofDocument?)

end SchemaDdl
