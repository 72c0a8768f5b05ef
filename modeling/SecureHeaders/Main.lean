import SecureHeaders.Cli.Program
/-!
The program's outer layer: it reads the configuration file and writes what the commands report.
The sockets belong to the supervisor that starts the program; the end of standard input is its
signal to stop.
-/

namespace SecureHeaders.Cli

/-- The number of an error of the system, which comes with a minus sign from some of its calls. -/
def errorNumber (code : UInt32) : UInt32 := min code (0 - code)

/-- What an error of reading a file says about its path. -/
def contentOf? : IO.Error → Option Config.Content
  | .noFileOrDirectory .. => some .missing
  | .inappropriateType _ code _ =>
    if errorNumber code = 20 then some .notDirectory
    else if errorNumber code = 21 then some .directory
    else none
  | .invalidArgument _ code _ => if errorNumber code = 36 then some .nameTooLong else none
  | _ => none

/-- What stands at a path of the file system; any other failure to read it ends the program. -/
def readContent (path : String) : IO Config.Content := do
  try
    let bytes ← IO.FS.readBinFile path
    return .file bytes.data.toList
  catch e =>
    match contentOf? e with
    | some content => return content
    | none => throw e

end SecureHeaders.Cli

open SecureHeaders

def main (args : List String) : IO UInt32 := do
  let content ← match Cli.configPath? args with
    | some path => Cli.readContent path
    | none => pure .missing
  match Cli.program Cli.Host.isolated (fun _ => content) args with
  | .finished report =>
    (← IO.getStdout).putStr report.stdout
    (← IO.getStderr).putStr report.stderr
    return UInt32.ofNat report.exit
  | .serving stdout stderr afterSignal =>
    (← IO.getStderr).putStr stderr
    let out ← IO.getStdout
    out.putStr stdout
    out.flush
    let _ ← (← IO.getStdin).readToEnd
    out.putStr (afterSignal .interrupt)
    return 0
