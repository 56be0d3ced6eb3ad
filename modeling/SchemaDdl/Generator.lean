import SchemaDdl.Script.Render
import SchemaDdl.Settings

/-!
# Generators

A generator fixes how operations become SQL: the token after each statement
and the dialect. The neutral dialect has the statement shapes that need no
particular server; the other one knows the version of a PostgreSQL server.
-/

namespace SchemaDdl

inductive Dialect where
  /-- Statement shapes only. -/
  | neutral
  /-- A server of a version, with a schema that always exists. -/
  | postgres (version : Version) (defaultSchema : String)
  deriving DecidableEq, Repr

structure Generator where
  terminator : String := ";"
  dialect : Dialect
  deriving DecidableEq, Repr

namespace Generator

def ofValidSettings (settings : Settings) : Generator :=
  ⟨settings.terminator, .postgres settings.version settings.defaultSchema⟩

def ofSettings (settings : Settings) : Result Generator := do
  settings.validate
  pure (ofValidSettings settings)

def standard : Generator := ofValidSettings {}

def endLine (g : Generator) : Render Unit := Render.appendLine g.terminator

/-- Ends a statement and closes the command. -/
def terminate (g : Generator) (suppressed : Bool) : Render Unit := do
  g.endLine
  Render.close suppressed

def terminateIf (g : Generator) (wanted : Bool) : Render Unit :=
  Render.onlyIf wanted (g.terminate false)

def statement (g : Generator) (text : String) : Render Unit := do
  Render.append text
  g.endLine

end Generator

def Render.unsupported (kind target : String) : Render α :=
  ofResult (.error (.unsupported
    (kind ++ " ('" ++ target ++ "') is not supported by the postgres generator")))

/-- Refuses what a server of the version cannot do. -/
def Version.demand (v bound : Version) (feature : String) : Result Unit :=
  if v.atLeast bound then .ok ()
  else
    .error (.unsupported
      (feature ++ " requires PostgreSQL " ++ bound.text ++ " or later (configured: " ++ v.text ++
        ")"))

end SchemaDdl
