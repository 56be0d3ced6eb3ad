import SchemaDdl.Generator
import SchemaDdl.Operation

/-!
# Sequences

Creating, altering, restarting and dropping sequences, and the name of the
sequence behind a serial column.
-/

namespace SchemaDdl

namespace Statement

open Render

/-- The type of a sequence, unless it is the one that a sequence has anyway. -/
def namedSequenceType (logical : LogicalType) : Render (Option String) :=
  if logical = .scalar .int64 then pure none
  else do
    let d ← require { logical := some logical }
    pure (some d.storeType)

def sequenceType (g : Generator) (logical : LogicalType) : Render (Option String) :=
  match g.dialect with
  | .neutral => namedSequenceType logical
  | .postgres version _ =>
    -- Servers before version 10 know no types of sequences.
    if version.atLeast ⟨10, 0⟩ then namedSequenceType logical else pure none

def boundText (word : String) : Option Int64 → String
  | some n => " " ++ word ++ " " ++ Numeral.ofInt n.toInt
  | none => " NO " ++ word

def sequenceOptionsText (options : SequenceOptions) : String :=
  " INCREMENT BY " ++ Numeral.ofInt options.increment.toInt ++
    boundText "MINVALUE" options.least ++ boundText "MAXVALUE" options.greatest ++
    if options.cyclic then " CYCLE" else " NO CYCLE"

def createSequence (g : Generator) (d : SequenceDefinition) (terminated : Bool) : Render Unit := do
  append "CREATE SEQUENCE "
  appendName d.sequence
  let storeType ← sequenceType g d.logical
  optionally storeType fun storeType => append (" AS " ++ storeType)
  append (" START WITH " ++ Numeral.ofInt d.start.toInt)
  append (sequenceOptionsText d.options)
  g.terminateIf terminated

def alterSequence (g : Generator) (sequence : ObjectName) (options : SequenceOptions) :
    Render Unit := do
  append "ALTER SEQUENCE "
  appendName sequence
  append (sequenceOptionsText options)
  g.terminate false

def restartSequence (g : Generator) (sequence : ObjectName) (start : Int64) : Render Unit := do
  append "ALTER SEQUENCE "
  appendName sequence
  append (" RESTART WITH " ++ Numeral.ofInt start.toInt)
  g.terminate false

def dropSequence (g : Generator) (sequence : ObjectName) : Render Unit := do
  append "DROP SEQUENCE "
  appendName sequence
  g.terminate false

end Statement

namespace BackingSequence

def available : Nat := Identifier.maxBytes - "__seq".utf8ByteSize

/-- Takes bytes from the longer of two names until both fit together. -/
def budgets (table column : Nat) : Nat × Nat :=
  if available < table + column then
    -- Of two names of one length the column's gives way.
    if column < table then budgets (table - 1) column else budgets table (column - 1)
  else (table, column)
termination_by table + column

/-- The name of the sequence behind a serial column. -/
def name (table column : String) : String :=
  let (tableBytes, columnBytes) := budgets table.utf8ByteSize column.utf8ByteSize
  String.ofList (Text.clip table.toList tableBytes) ++ "_" ++
    String.ofList (Text.clip column.toList columnBytes) ++ "_seq"

end BackingSequence

end SchemaDdl
