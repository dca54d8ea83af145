import Routing.CommandLine.Ending

namespace Routing.CommandLine

/-! # Program

Reads the file of settings that the arguments name, and ends as the arguments ask.
-/

/-- What is found under the name of a file. -/
def sourceOf (fileName : String) : IO Settings.Source := do
  try
    return .bytes (← IO.FS.readBinFile fileName).toList
  catch
    | .noFileOrDirectory .. => return .missing
    | _ => return .unreadable

/-- Ends as the arguments ask, and gives the exit code. -/
def runProgram (arguments : List String) : IO UInt32 := do
  let ending ← match readArguments arguments with
    | .ok request =>
      let source ← match request with
        | .run fileName _ => sourceOf fileName
        | _ => pure .missing
      pure (Ending.ofRequest (fun _ => source) request)
    | .error reason => pure (Ending.ofMisuse reason)
  IO.print ending.output
  IO.eprint ending.complaint
  return ending.code.toUInt32

end Routing.CommandLine

def main (arguments : List String) : IO UInt32 :=
  Routing.CommandLine.runProgram arguments
