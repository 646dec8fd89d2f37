import SqlSyntax.CommandLine.Invocation

/-!
# The program

The outermost layer: it reads what an invocation asks for and writes the outcome.
-/
namespace SqlSyntax.CommandLine

/-- Reads a stream to its end. -/
partial def readStream (stream : IO.FS.Stream) (text : String) : IO String := do
  let line ← stream.getLine
  if line.isEmpty then return text
  readStream stream (text ++ line)

def Outcome.deliver (outcome : Outcome) : IO UInt32 := do
  IO.print outcome.output
  IO.eprint outcome.errors
  return outcome.exitCode.toUInt32

end SqlSyntax.CommandLine

open SqlSyntax.CommandLine

def main (arguments : List String) : IO UInt32 := do
  match Invocation.ofArguments arguments (← IO.getEnv "SQLFRONT_MAX_DEPTH") with
  | .answer outcome => outcome.deliver
  | .withInput use => (use (← readStream (← IO.getStdin) "")).deliver
  | .withFile file use =>
    let text ← try pure (some (← IO.FS.readFile file)) catch _ => pure none
    (use text).deliver
