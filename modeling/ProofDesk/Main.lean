import ProofDesk.CommandLine
import ProofDesk.Shell.Run

open ProofDesk

/-- The text of a file, if it can be read. -/
def readSource (path : Text) : IO (Option Text) := do
  try
    return some (← IO.FS.readFile (String.ofList path)).toList
  catch _ =>
    return none

def main (arguments : List String) : IO UInt32 := do
  let arguments := arguments.map String.toList
  let source ← match Invocation.ofArguments arguments with
    | .check _ file => readSource file
    | _ => pure none
  let result := CommandLine.perform (fun _ => source)
    (fun launch text => Shell.run launch Launch.documentFlags text) arguments
  (← IO.getStdout).putStr (String.ofList result.output)
  return UInt32.ofNat result.status
