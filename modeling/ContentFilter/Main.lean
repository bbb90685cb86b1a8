import ContentFilter.Clock
import ContentFilter.CommandLine.Run

/-!
# The command line

Reads the words of the line, the environment, the content and the clock, and prints what the run
comes to.
-/

namespace ContentFilter.CommandLine

/-- The content: that of the file, or what comes from standard input. -/
def readContent (file : Option String) : IO (Except String String) := do
  try
    match file with
    | some name => return .ok (← IO.FS.readFile name)
    | none => return .ok (← (← IO.getStdin).readToEnd)
  catch e => return .error (toString e)

end ContentFilter.CommandLine

open ContentFilter ContentFilter.CommandLine

/-- Runs the command line. -/
def main (words : List String) : IO UInt32 := do
  let names := jsonVariable :: [Setting.content, .root, .start, .branch].map Setting.variable
  let environment ← names.filterMapM fun name => do
    return (← IO.getEnv name).map fun value => (name, value)
  match Options.read words (environment.lookup ·) with
  | .error .help =>
    IO.print usage
    return 0
  | .error .invalid =>
    IO.eprint usage
    return 2
  | .ok options =>
    let content ← readContent options.content
    let outcome := run options content (← Instant.present)
    IO.print outcome.output
    IO.eprint outcome.errors
    return outcome.code.toUInt32
