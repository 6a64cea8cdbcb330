import Gamecard.IoError
import Gamecard.Text.Quoted

/-!
# Errors in key files

A malformed key file is reported with the line and column of the character at
which reading stopped.  Lines and columns are counted from zero, and a line
feed stands in column zero of the line that it begins.
-/

namespace Gamecard

inductive Terminator where
  | assignment
  | bracket
  | quote (mark : Char)
  | line
deriving DecidableEq

namespace Terminator

def matches? (terminator : Terminator) (character : Char) : Bool :=
  match terminator with
  | .assignment => character == '=' || character == ':'
  | .bracket => character == ']'
  | .quote mark => character == mark
  | .line => character == '\n' || character == '\r'

def allowsEnd : Terminator → Bool
  | .line => true
  | _ => false

def describe : Terminator → String
  | .assignment => "[Some('='), Some(':')]"
  | .bracket => "[Some(']')]"
  | .quote mark => "[Some(" ++ Text.quoteChar mark ++ ")]"
  | .line => "[Some('\\n'), Some('\\r'), None]"

end Terminator

inductive KeyFileFault where
  | inlineComment
  | missingName
  | unterminated (terminator : Terminator)
  | malformedCode
  | brokenCode (found : Option Char)
deriving DecidableEq

def KeyFileFault.message : KeyFileFault → String
  | .inlineComment => "doesn't support inline comment"
  | .missingName => "missing key"
  | .unterminated terminator =>
    "expecting \"" ++ terminator.describe ++ "\" but found EOF."
  | .malformedCode => "unknown character in \\xHH form"
  | .brokenCode found =>
    let text := match found with
      | none => "None"
      | some character => "Some(" ++ Text.quoteChar character ++ ")"
    "expecting \"\\\\n\" but found \"" ++ text ++ "\"."

inductive KeyFileError where
  | unreadable (cause : IoError)
  | malformed (line column : Nat) (fault : KeyFileFault)
deriving DecidableEq

def KeyFileError.message : KeyFileError → String
  | .unreadable cause => cause.message
  | .malformed line column fault =>
    toString line ++ ":" ++ toString column ++ " " ++ fault.message

end Gamecard
