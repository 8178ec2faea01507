import PlatformManifests.CommandLine.Run

/-!
The program itself: arguments, environment and files are those of the process.
-/
open PlatformManifests.CommandLine

/-- The reason why a file could not be read or written. -/
def fileError : IO.Error → FileError
  | .noFileOrDirectory _ _ _ => .notFound
  | .inappropriateType _ code _ => if code = 20 then .notDirectory else .isDirectory
  | error => .other 5 "Other" (toString error)

def attempt {α : Type} (action : IO α) : IO (Except FileError α) := do
  match ← action.toBaseIO with
  | .ok value => return .ok value
  | .error error => return .error (fileError error)

def processFiles : FileAccess IO where
  read path := attempt (IO.FS.readFile path)
  write path content := attempt (IO.FS.writeFile path content)

def main (arguments : List String) : IO UInt32 := do
  let report ← run processFiles arguments (← IO.getEnv "WISEFOOD_CONFIG")
  IO.print report.output
  IO.eprint report.complaint
  return report.exitCode
