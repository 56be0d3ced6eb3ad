import SchemaDdl.CommandLine.Options
import SchemaDdl.Numeral

/-!
# Invocations

What a command line asks for: to compile a file of operations, or to find a
store type. Options that concern both stand before the name of the job.
-/

namespace SchemaDdl.CommandLine

inductive Job where
  | compile (operations : String) (model version : Option String)
  | resolve (storeName logical : Option String) (size : Option Nat) (fixedLength : Bool)
  deriving DecidableEq, Repr

structure Invocation where
  settings : Option String
  json : Bool
  job : Job
  deriving DecidableEq, Repr

/-- The options before the name of the job. The last two concern messages only. -/
def commonForms : List OptionForm := [
  { name := "config", letter := some 'c' },
  { name := "output-json", takesValue := false },
  { name := "log-format" },
  { name := "verbosity" }]

def compileForms : List OptionForm := [{ name := "model" }, { name := "postgres-version" }]

def resolveForms : List OptionForm := [
  { name := "logical" },
  { name := "size" },
  { name := "fixed-length", takesValue := false }]

def optionally (read : String → Option α) : Option String → Option (Option α)
  | none => some none
  | some s => (read s).map some

def path? (s : String) : Option String := if s = "" then none else some s

def size? (s : String) : Option Nat := do
  let n ← Numeral.readInt? s.toList
  if 0 ≤ n ∧ n ≤ Numeral.word32Limit then some n.toNat else none

namespace Job

def readCompile? (args : List String) : Option Job := do
  let given ← readAll? compileForms {} args
  let model ← optionally path? (given.value? "model")
  match given.words with
  | [operations] =>
    pure (compile (← path? operations) model (given.value? "postgres-version"))
  | _ => none

/-- A store name and a logical type exclude each other. -/
def readResolve? (args : List String) : Option Job := do
  let given ← readAll? resolveForms {} args
  let size ← optionally size? (given.value? "size")
  let logical := given.value? "logical"
  match given.words, logical with
  | [], _ => pure (resolve none logical size (given.has "fixed-length"))
  | [name], none => pure (resolve (some name) none size (given.has "fixed-length"))
  | _, _ => none

def read? (name : String) (args : List String) : Option Job :=
  match name with
  | "compile" => readCompile? args
  | "resolve-type" => readResolve? args
  | _ => none

def files : Job → List String
  | compile operations model _ => operations :: model.toList
  | resolve _ _ _ _ => []

end Job

namespace Invocation

def read? (args : List String) : Option Invocation := do
  let (given, name, rest) ← readLeading? commonForms {} args
  let settings ← optionally path? (given.value? "config")
  let job ← Job.read? name rest
  pure { settings, json := given.has "output-json", job }

def files (i : Invocation) : List String := i.settings.toList ++ i.job.files

end Invocation

end SchemaDdl.CommandLine
