import HubSpoke.CommandLine.Run
import Std.Time.DateTime.Timestamp

/-!
# The program
-/

namespace HubSpoke

/-- The reason a real file is neither read nor written. -/
def FileError.ofIO : IO.Error → FileError
  | .noFileOrDirectory .. => .missing
  | .inappropriateType _ 20 _ => .notDirectory
  | .inappropriateType .. => .isDirectory
  | e => .other (toString e)

/-- The result of an action on a real file. -/
def fileResult {α : Type} (action : IO α) : IO (Except FileError α) := do
  try return .ok (← action)
  catch e => return .error (.ofIO e)

instance : Workplace IO where
  readFile path := fileResult (IO.FS.readBinFile path)
  isPresent path := do
    match ← fileResult (IO.FS.Handle.mk path .read) with
    | .error .missing => return false
    | .ok _ | .error _ => return true
  writeFile path text := fileResult (IO.FS.writeFile path text)
  appendFile path text := fileResult (IO.FS.withFile path .append fun file => file.putStr text)
  printLine line := IO.println line
  reportLine line := IO.eprintln line
  environment name := IO.getEnv name
  now := do return (← Std.Time.Timestamp.now).toMillisecondsSinceUnixEpoch.val.toNat

end HubSpoke

/-- Runs the command that the arguments ask for. -/
def main (arguments : List String) : IO UInt32 := do
  let code : HubSpoke.ExitCode ← HubSpoke.runArguments arguments
  return code.number
