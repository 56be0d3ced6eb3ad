import SchemaDdl.CommandLine.Run

/-!
# The program

Reads the files that the command line names, runs the invocation, and
writes what comes of it.
-/

open SchemaDdl.CommandLine

namespace SchemaDdl.Program

def readFile (path : String) : IO (Except String String) := do
  try
    return .ok (← IO.FS.readFile ⟨path⟩)
  catch e =>
    return .error (toString e)

def readFiles (paths : List String) : IO FileReader := do
  let contents ← paths.mapM fun path => do
    return (path, ← readFile path)
  return fun path => (contents.lookup path).getD (.error ("not read: " ++ path))

end SchemaDdl.Program

def main (args : List String) : IO UInt32 := do
  let invocation := Invocation.read? args
  let reader ← SchemaDdl.Program.readFiles ((invocation.map Invocation.files).getD [])
  let outcome := run reader invocation
  (← IO.getStdout).putStr outcome.output
  (← IO.getStderr).putStr outcome.report
  return outcome.exitCode.toUInt32
