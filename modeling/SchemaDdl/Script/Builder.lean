import SchemaDdl.Text.Blank
import SchemaDdl.Text.Clip

/-!
# Building a script

A script is a list of commands, each a text that is executed as a whole. The
builder takes text piece by piece and indents it at the start of a line; a
command is closed when it is complete. A mark holds a position to which the
builder can be rolled back.
-/

namespace SchemaDdl

/-- A text to be executed as a whole. -/
structure Command where
  text : String
  /-- It has to run outside a transaction. -/
  suppressed : Bool
  deriving DecidableEq, Repr, Inhabited

/-- The commands that are closed and the text of the one that is not. -/
structure Builder where
  commands : List Command := []
  pending : String := ""
  depth : Nat := 0
  /-- The next text starts a line. -/
  atLineStart : Bool := true
  deriving DecidableEq, Repr, Inhabited

/-- A position in a builder, kept as counts of commands and bytes. -/
structure Mark where
  commands : Nat
  bytes : Nat
  depth : Nat
  deriving DecidableEq, Repr, Inhabited

inductive Edit where
  | append (text : String)
  | breakLine
  | indent
  | dedent
  | close (suppressed : Bool)
  deriving DecidableEq, Repr

namespace Builder

def indentation (depth : Nat) : String := String.ofList (List.replicate (4 * depth) ' ')

/-- Adds text, indented if it starts a line; the empty text changes nothing. -/
def append (b : Builder) (text : String) : Builder :=
  if text = "" then b
  else
    { b with
      pending := b.pending ++ (if b.atLineStart then indentation b.depth else "") ++ text
      atLineStart := false }

def breakLine (b : Builder) : Builder :=
  { b with pending := b.pending ++ "\n", atLineStart := true }

def appendLine (b : Builder) (text : String) : Builder := (b.append text).breakLine

def indent (b : Builder) : Builder := { b with depth := b.depth + 1 }

def dedent (b : Builder) : Builder := { b with depth := b.depth - 1 }

/-- Closes the pending text as a command; blank text is dropped. -/
def close (b : Builder) (suppressed : Bool) : Builder :=
  { b with
    commands :=
      if Text.isBlank b.pending then b.commands else b.commands ++ [⟨b.pending, suppressed⟩]
    pending := ""
    atLineStart := true }

def apply (b : Builder) : Edit → Builder
  | .append text => b.append text
  | .breakLine => b.breakLine
  | .indent => b.indent
  | .dedent => b.dedent
  | .close suppressed => b.close suppressed

def run (b : Builder) (edits : List Edit) : Builder := edits.foldl apply b

/-- All commands, the pending text being closed first. -/
def build (b : Builder) : List Command := (b.close false).commands

def mark (b : Builder) : Mark := ⟨b.commands.length, b.pending.utf8ByteSize, b.depth⟩

def startsLine (pending : String) : Bool :=
  pending.toList.getLast?.all (· == '\n')

/-- Goes back to a mark. The text that was pending there has become the beginning of the first
command closed since, or of the text pending now. -/
def rollback? (b : Builder) (m : Mark) : Option Builder := do
  let text := ((b.commands[m.commands]?).map Command.text).getD b.pending
  -- There is no way back into a character.
  let pending ← (Text.cut? text.toList m.bytes).map String.ofList
  pure {
    commands := b.commands.take m.commands
    pending
    depth := m.depth
    atLineStart := startsLine pending }

@[simp] theorem run_nil (b : Builder) : b.run [] = b := rfl

@[simp] theorem run_cons (b : Builder) (e : Edit) (es : List Edit) :
    b.run (e :: es) = (b.apply e).run es := rfl

theorem run_append (b : Builder) (es fs : List Edit) : b.run (es ++ fs) = (b.run es).run fs := by
  simp [run]

end Builder

end SchemaDdl
