import Gamecard.CommandLine

/-!
# The program

The command line on the disk.  Paths go to the system as they are, and what it
refuses is reported with its number and reason.
-/

namespace Gamecard.Disk

/-- The refusals that have a wording of their own here. -/
def known : List SystemError :=
  [.noEntry, .alreadyExists, .notDirectory, .isDirectory, .nameTooLong]

/-- The refusal of a number, which the system may give negated. -/
def refusal (code : UInt32) (reason : String) : SystemError :=
  let number := min code.toNat (0x100000000 - code.toNat)
  (known.find? fun error => error.code = number).getD ⟨number, reason⟩

def systemError : IO.Error → SystemError
  | .noFileOrDirectory _ code reason => refusal code reason
  | .alreadyExists _ code reason => refusal code reason
  | .inappropriateType _ code reason => refusal code reason
  | .permissionDenied _ code reason => refusal code reason
  | .invalidArgument _ code reason => refusal code reason
  | .resourceExhausted _ code reason => refusal code reason
  | .otherError code reason => refusal code reason
  | error => ⟨5, toString error⟩

def attempt {α : Type} (action : IO α) : IO (Except IoError α) := do
  match ← action.toBaseIO with
  | .ok value => pure (.ok value)
  | .error error => pure (.error (.system (systemError error)))

/-- What is at a path; a directory shows by the refusal to read it. -/
def openPath (path : String) : IO (Except IoError Node) := do
  match ← attempt (IO.FS.readBinFile path) with
  | .ok contents => pure (.ok (.file contents.data.toList))
  | .error (.system error) =>
    if error.code = SystemError.isDirectory.code then pure (.ok .directory)
    else pure (.error (.system error))
  | .error error => pure (.error error)

def access : FileAccess IO where
  openPath := openPath
  makeDirectory path := attempt (IO.FS.createDir path)
  writeFile path contents := attempt (IO.FS.writeBinFile path ⟨contents.toArray⟩)

def environment : IO Environment := do
  let home ← IO.getEnv "HOME"
  let configHome ← IO.getEnv "XDG_CONFIG_HOME"
  pure (.ofVariables home configHome)

end Gamecard.Disk

def main (arguments : List String) : IO UInt32 := do
  let environment ← Gamecard.Disk.environment
  let outcome ← Gamecard.CommandLine.run Gamecard.Disk.access environment arguments
  IO.print outcome.output
  pure (UInt32.ofNat outcome.exitCode)
