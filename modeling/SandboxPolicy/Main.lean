import SandboxPolicy.CommandLine.Session

/-!
The program on the files of the system.
-/

namespace SandboxPolicy.Main

def fileError : IO.Error → FileError
  | .noFileOrDirectory _ _ _ => .missing
  | .permissionDenied _ _ _ => .permissionDenied
  | .inappropriateType _ 20 _ => .notDirectory
  | .inappropriateType _ 21 _ => .isDirectory
  | .invalidArgument _ 36 _ => .nameTooLong
  | error => .other (toString error)

def guarded {α : Type} (action : IO α) : IO (Except FileError α) := do
  try
    return .ok (← action)
  catch error =>
    return .error (fileError error)

/-- The settings of the user: in the directory that the environment names, or at home. -/
def settingsFile : IO (Option String) := do
  match ← IO.getEnv "SANDSTONE_HOME" with
  | some directory => return some (directory ++ "/settings.json")
  | none => return (← IO.getEnv "HOME").map fun home => home ++ "/.sandstone/settings.json"

partial def readToEnd (stream : IO.FS.Stream) (bytes : ByteArray) : IO ByteArray := do
  let chunk ← stream.read 65536
  if chunk.isEmpty then return bytes else readToEnd stream (bytes ++ chunk)

def host : IO (Host IO) := do
  return {
    read := fun file => guarded (return (← IO.FS.readBinFile file).data.toList)
    readInput := return (← readToEnd (← IO.getStdin) .empty).data.toList
    write := fun file bytes => guarded (IO.FS.writeBinFile file ⟨bytes.toArray⟩)
    settingsFile := ← settingsFile }

end SandboxPolicy.Main

def main (arguments : List String) : IO UInt32 := do
  let outcome ← SandboxPolicy.Session.run (← SandboxPolicy.Main.host) arguments
  (← IO.getStdout).putStr outcome.output
  (← IO.getStderr).putStr outcome.errors
  return UInt32.ofNat outcome.code
