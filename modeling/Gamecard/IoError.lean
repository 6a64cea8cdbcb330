import Gamecard.Hex

/-!
# Errors of input and output

A read may run past the end of a storage, a buffer may stay unfilled, a seek
may lead before the start, and the system may refuse an operation on a file.
-/

namespace Gamecard

structure SystemError where
  code : Nat
  reason : String
deriving DecidableEq

namespace SystemError

def noEntry : SystemError := ⟨2, "No such file or directory"⟩

def alreadyExists : SystemError := ⟨17, "File exists"⟩

def notDirectory : SystemError := ⟨20, "Not a directory"⟩

def isDirectory : SystemError := ⟨21, "Is a directory"⟩

def nameTooLong : SystemError := ⟨36, "File name too long"⟩

def message (error : SystemError) : String :=
  error.reason ++ " (os error " ++ toString error.code ++ ")"

end SystemError

inductive IoError where
  | pastEnd (length offset size : Nat)
  /-- The data ended before a buffer was full. -/
  | unfilled
  /-- A seek leads out of the range of positions. -/
  | unreachable
  | notText
  /-- A path holds a zero byte. -/
  | zeroInPath
  | system (error : SystemError)
deriving DecidableEq

def IoError.message : IoError → String
  | .pastEnd length offset size =>
    "read of " ++ Hex.marked length ++ " bytes at " ++ Hex.marked offset ++
      " is past the end of the storage (" ++ Hex.marked size ++ ")"
  | .unfilled => "failed to fill whole buffer"
  | .unreachable => "Seek before position 0"
  | .notText => "stream did not contain valid UTF-8"
  | .zeroInPath => "file name contained an unexpected NUL byte"
  | .system error => error.message

end Gamecard
