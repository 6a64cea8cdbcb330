import Gamecard.Error
import Gamecard.Text.Blank

/-!
# Key files

A key file has one pair of a name and a value per line, comments on lines of
their own, and sections.  Only the pairs ahead of the first section count, all
of them, in order.  Names and values may hold escapes; a value may stand in
quotation marks.  What follows the first section still has to be well formed.
-/

namespace Gamecard.KeyFile

structure Position where
  line : Nat
  column : Nat
deriving DecidableEq

namespace Position

def origin : Position := ⟨0, 0⟩

def advance (position : Position) (character : Char) : Position :=
  if character = '\n' then ⟨position.line + 1, 0⟩
  else ⟨position.line, position.column + 1⟩

end Position

abbrev Located := Char × Position

def locate (position : Position) : List Char → List Located
  | [] => []
  | character :: rest =>
    let next := position.advance character
    (character, next) :: locate next rest

def faultAt (position : Position) (fault : KeyFileFault) : KeyFileError :=
  .malformed position.line position.column fault

def unescape (character : Char) : List Char :=
  if character = '0' then ['\x00']
  else if character = 'a' then ['\x07']
  else if character = 'b' then ['\x08']
  else if character = 't' then ['\t']
  else if character = 'r' then ['\r']
  else if character = 'n' then ['\n']
  else if character = '\n' then []
  else [character]

def digit? (character : Char) : Option Nat :=
  if character.toNat < 0x80 then
    (Hex.digit? (UInt8.ofNat character.toNat)).map UInt8.toNat
  else none

def number? (digits : List Char) : Option Nat :=
  match digits with
  | [] => none
  | _ => digits.foldlM (fun number digit => (digit? digit).map (16 * number + ·)) 0

def characterOfCode? (code : List Char) : Option Char := do
  let number ← number? (if code.head? = some '+' then code.drop 1 else code)
  if valid : number.isValidChar then some (Char.ofNatAux number valid) else none

/-- How the next character of a piece is to be understood. -/
inductive Mode where
  | plain
  | escaped
  /-- As part of a code of which some characters have been read. -/
  | code (before : List Char)
  /-- After a backslash within a code. -/
  | codeEscaped (before : List Char)

/-- The characters up to a terminator, and what follows, the terminator first.
`finish` is the place of the last character of the whole text. -/
def readPiece (finish : Position) (terminator : Terminator) :
    Mode → List Located → Except KeyFileError (List Char × List Located)
  | .plain, [] =>
    if terminator.allowsEnd then .ok ([], [])
    else .error (faultAt finish (.unterminated terminator))
  | .codeEscaped _, [] => .error (faultAt finish (.brokenCode none))
  | _, [] => .error (faultAt finish (.unterminated terminator))
  | .plain, (character, position) :: rest =>
    if terminator.matches? character then .ok ([], (character, position) :: rest)
    else if character = '\\' then readPiece finish terminator .escaped rest
    else do
      let (later, remaining) ← readPiece finish terminator .plain rest
      .ok (character :: later, remaining)
  | .escaped, (character, _) :: rest =>
    if character = 'x' then readPiece finish terminator (.code []) rest
    else do
      let (later, remaining) ← readPiece finish terminator .plain rest
      .ok (unescape character ++ later, remaining)
  | .code before, (character, position) :: rest =>
    if character = '\\' then readPiece finish terminator (.codeEscaped before) rest
    else if before.length < 3 then
      readPiece finish terminator (.code (before ++ [character])) rest
    else
      match characterOfCode? (before ++ [character]) with
      | none => .error (faultAt position .malformedCode)
      | some decoded => do
        let (later, remaining) ← readPiece finish terminator .plain rest
        .ok (decoded :: later, remaining)
  | .codeEscaped before, (character, position) :: rest =>
    if character ≠ '\n' then .error (faultAt position (.brokenCode (some character)))
    else if before.length < 3 then
      readPiece finish terminator (.code (before ++ [character])) rest
    else .error (faultAt position .malformedCode)

def isInlineBlank (character : Char) : Bool :=
  Text.isBlank character && character != '\n' && character != '\r'

def readValue (finish : Position) (text : List Located) :
    Except KeyFileError (List Char × List Located) :=
  match text.dropWhile fun located => isInlineBlank located.1 with
  | [] => .ok ([], [])
  | (character, position) :: rest =>
    if character = '"' || character = '\x27' then do
      let (quoted, remaining) ← readPiece finish (.quote character) .plain rest
      let (plain, remaining) ← readPiece finish .line .plain (remaining.drop 1)
      .ok (quoted ++ plain, remaining)
    else readPiece finish .line .plain ((character, position) :: rest)

/-- The pairs of a text that come before its first section.  `inSection` tells
whether a section has begun, `name` is the name read last, and each round takes
at least one character, so the length of the text is enough fuel. -/
def readPairs (finish : Position) : Nat → Bool → List Char → List Located →
    Except KeyFileError (List (String × String))
  | 0, _, _, _ => .ok []
  | fuel + 1, inSection, name, text =>
    match text.dropWhile fun located => Text.isBlank located.1 with
    | [] => .ok []
    | (character, position) :: rest =>
      if character = ';' || character = '#' then
        if 1 < position.column then .error (faultAt position .inlineComment)
        else
          readPairs finish fuel inSection name
            (rest.dropWhile fun located => located.1 != '\n')
      else if character = '[' then do
        let (_, remaining) ← readPiece finish .bracket .plain rest
        readPairs finish fuel true name (remaining.drop 1)
      else if character = '=' || character = ':' then
        if name.isEmpty then .error (faultAt position .missingName)
        else do
          let (value, remaining) ← readValue finish rest
          let pairs ← readPairs finish fuel inSection [] remaining
          if inSection then .ok pairs
          else .ok ((String.ofList name, String.ofList (Text.trim value)) :: pairs)
      else do
        let (name, remaining) ←
          readPiece finish .assignment .plain ((character, position) :: rest)
        readPairs finish fuel inSection (Text.trim name) remaining

def pairsOfText (text : String) : Except KeyFileError (List (String × String)) :=
  let located := locate .origin text.toList
  let finish := (located.getLast?.map Prod.snd).getD .origin
  readPairs finish (located.length + 1) false [] located

/-- The pairs in the contents of a key file; there has to be one. -/
def pairs (contents : Bytes) : Except Error (List (String × String)) :=
  match Utf8.decode? contents with
  | none => .error (.keyFile (.unreadable .notText))
  | some text =>
    match pairsOfText text with
    | .error error => .error (.keyFile error)
    | .ok [] => .error .noPairs
    | .ok pairs => .ok pairs

end Gamecard.KeyFile
