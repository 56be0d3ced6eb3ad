import SchemaDdl.CommandLine.Invocation
import SchemaDdl.Decode.Yaml
import SchemaDdl.Document.JsonText
import SchemaDdl.Migration

/-!
# Running an invocation

The result of an invocation is a text, or the error that prevented it. Files
are given by a function, so that nothing here depends on the outer world.
-/

namespace SchemaDdl

def Command.document (c : Command) : Document :=
  .ofFields [("command_text", .text c.text), ("transaction_suppressed", .bool c.suppressed)]

/-- A command as a part of a script: marked if it has to run outside a transaction, and followed
by an empty line. -/
def Command.scriptText (c : Command) : String :=
  (if c.suppressed then "-- no transaction\n" else "") ++ c.text ++
    (if c.text.toList.getLast? = some '\n' then "\n" else "\n\n")

def Descriptor.document (d : Descriptor) : Document :=
  .ofFields [("store_type", .text d.storeType),
    ("size", (d.size?.map fun n => Document.integer n).getD .null),
    ("is_array", .bool d.isArray),
    ("element_store_type", (d.element?.map fun e => Document.text e.storeType).getD .null)]

namespace CommandLine

abbrev FileReader := String → Except String String

def load (reader : FileReader) (path : String) : Result String :=
  match reader path with
  | .ok s => .ok s
  | .error reason => .error (.io reason)

def loadOptional (reader : FileReader) (read : String → Result α) :
    Option String → Result (Option α)
  | none => .ok none
  | some path => do
    let s ← load reader path
    let a ← read s
    pure (some a)

def compile (reader : FileReader) (settings : Settings) (operations : String)
    (model version : Option String) : Result (List Command) := do
  -- The settings are validated with the version that is asked for.
  let settings := { settings with postgresVersion := version.getD settings.postgresVersion }
  let ops ← Operation.listOfYaml (← load reader operations)
  let model ← loadOptional reader Model.ofYaml model
  let generator ← Generator.ofSettings settings
  generator.generate model ops

def resolve (storeName logical : Option String) (size : Option Nat) (fixedLength : Bool) :
    Result Descriptor :=
  match storeName, logical with
  | some name, _ => (Memo.empty.require { storeName := some name, size, fixedLength }).1
  | none, some text => do
    let t ← LogicalType.parse text
    (Memo.empty.require { logical := some t, size, fixedLength }).1
  | none, none => .error (.config "Either a store type or --logical is required")

def commandsText (json : Bool) (commands : List Command) : String :=
  if json then Json.indented (.list (commands.map Command.document)) ++ "\n"
  else String.join (commands.map Command.scriptText)

def descriptorText (json : Bool) (d : Descriptor) : String :=
  (if json then Json.indented d.document else d.storeType) ++ "\n"

def Invocation.output (reader : FileReader) (i : Invocation) : Result String := do
  -- Settings have to be valid even for a job that does not use them.
  let settings ← loadOptional reader Settings.ofYaml i.settings
  match i.job with
  | .compile operations model version => do
    let commands ← compile reader (settings.getD {}) operations model version
    pure (commandsText i.json commands)
  | .resolve storeName logical size fixedLength => do
    let d ← resolve storeName logical size fixedLength
    pure (descriptorText i.json d)

inductive Outcome where
  | refused
  | failed (e : DdlError)
  | done (output : String)

namespace Outcome

def exitCode : Outcome → Nat
  | refused => 2
  | failed e => e.exitCode
  | done _ => 0

def output : Outcome → String
  | done output => output
  | _ => ""

def report : Outcome → String
  | refused => "error: unexpected arguments\n"
  | failed e => e.detailed ++ "\n"
  | done _ => ""

end Outcome

def run (reader : FileReader) : Option Invocation → Outcome
  | none => .refused
  | some i =>
    match i.output reader with
    | .ok output => .done output
    | .error e => .failed e

end CommandLine

end SchemaDdl
