import Signpost.Command
import Signpost.Log.Config
/-!
# The command line

Reads the variables and the manifest file, carries out the invocation, and writes
what comes of it. Log events are left to programs that embed the library.
-/

namespace Signpost

/-- The variables that a run looks at. -/
def variableNames : List String :=
  [Command.routesVariable, Settings.orderVariable, Settings.slowMatchVariable,
    Log.Config.levelVariable, Log.Config.formatVariable, Log.Config.targetFilterVariable,
    Log.Config.directivesVariable]

def usage : String :=
  "usage: signpost [-v] check -r FILE\n" ++
  "       signpost [-v] routes -r FILE\n" ++
  "       signpost [-v] match -r FILE [-m METHOD] PATH"

/-- What is wrong with a command line, in a few words. -/
def complaint : Command.UsageFault → String
  | .missingArgument => "an argument is missing"
  | .unknownArgument => "an argument is not understood"
  | .unknownCommand => "there is no such command"
  | .badValue => "an option has no value"
  | .repeated => "an option is given twice"
  | .unexpectedValue => "a switch takes no value"
  | .missingCommand => "a command is missing"
  | .helpAsked => ""
  | .helpInstead => ""

/-- The system's reason for a file that cannot be read. -/
def readError : IO.Error → Command.ReadError
  | .noFileOrDirectory _ code details => .system details code.toNat
  | .permissionDenied _ code details => .system details code.toNat
  | .inappropriateType _ code details => .system details code.toNat
  | .invalidArgument _ code details => .system details code.toNat
  | .resourceExhausted _ code details => .system details code.toNat
  | .hardwareFault code details => .system details code.toNat
  | .otherError code details => .system details code.toNat
  | e => .system (toString e) 0

def readBytes (file : String) : IO (Except Command.ReadError ByteArray) := do
  try return .ok (← IO.FS.readBinFile file)
  catch e => return .error (readError e)

def runInvocation (lookup : String → Option String) (i : Command.Invocation) : IO UInt32 := do
  for warning in (Log.Config.ofCommand lookup i.verbose).warnings do
    IO.eprintln warning
  let content ← readBytes i.file
  match (i.run ⟨fun _ => content, lookup⟩).value with
  | .ok outcome =>
    IO.print outcome.stdout
    IO.eprint outcome.stderr
    return outcome.exitCode.toUInt32
  | .error e =>
    IO.eprintln ("error: " ++ e.message)
    return 2

end Signpost

open Signpost

def main (args : List String) : IO UInt32 := do
  let found ← variableNames.mapM fun name => do return (name, ← IO.getEnv name)
  let lookup := fun name => (found.lookup name).bind id
  match Command.Invocation.parse lookup args with
  | .ok i => runInvocation lookup i
  | .error .helpAsked =>
    IO.println usage
    return 0
  | .error fault =>
    IO.eprintln (complaint fault ++ "\n" ++ usage)
    return 2
