/-! # Faults in JSON text

A fault names its cause and the place where reading stopped: the characters that were left, and how
many bytes beyond them the fault is reported. Lines and columns are counted only when the fault is
turned into an error. -/
namespace JsonClasses.Json

inductive Cause
  | endInValue
  | endInList
  | endInObject
  | endInString
  | notValue
  | notIdent
  | notListEnd
  | notObjectEnd
  | notColon
  | trailingComma
  | keyNotString
  | tooDeep
  | badNumber
  | numberTooLarge
  | controlCharacter
  | badEscape
  | loneSurrogate
  | halfSurrogatePair
  | trailingCharacters
  deriving DecidableEq, Repr

def Cause.message : Cause → String
  | endInValue => "EOF while parsing a value"
  | endInList => "EOF while parsing a list"
  | endInObject => "EOF while parsing an object"
  | endInString => "EOF while parsing a string"
  | notValue => "expected value"
  | notIdent => "expected ident"
  | notListEnd => "expected `,` or `]`"
  | notObjectEnd => "expected `,` or `\x7d`"
  | notColon => "expected `:`"
  | trailingComma => "trailing comma"
  | keyNotString => "key must be a string"
  | tooDeep => "recursion limit exceeded"
  | badNumber => "invalid number"
  | numberTooLarge => "number out of range"
  | controlCharacter => "control character (\\u0000-\\u001F) found while parsing a string"
  | badEscape => "invalid escape"
  | loneSurrogate => "lone leading surrogate in hex escape"
  | halfSurrogatePair => "unexpected end of hex escape"
  | trailingCharacters => "trailing characters"

structure Fault where
  cause : Cause
  left : List Char
  /-- Bytes of `left` that count as read. -/
  beyond : Nat

/-- Fails at the characters that are left. -/
def failAt {α : Type} (cause : Cause) (left : List Char) (beyond : Nat) : Except Fault α :=
  .error ⟨cause, left, beyond⟩

/-- Fails at the next byte, or at the end of the text if there is none. -/
def failNext {α : Type} (cause : Cause) (left : List Char) : Except Fault α :=
  failAt cause left (if left.isEmpty then 0 else 1)

/-! ## Places -/

def byteSize (cs : List Char) : Nat := cs.foldl (fun n c => n + c.utf8Size) 0

/-- The line and the column, in bytes, that the first `bytes` bytes of a text lead to. -/
def placeAfter (line column : Nat) (bytes : Nat) : List Char → Nat × Nat
  | [] => (line, column)
  | c :: rest =>
      if bytes = 0 then (line, column)
      else if bytes < c.utf8Size then (line, column + bytes)
      else if c = '\n' then placeAfter (line + 1) 0 (bytes - 1) rest
      else placeAfter line (column + c.utf8Size) (bytes - c.utf8Size) rest

/-- A text that is not JSON: where reading it stopped, and a message that repeats the place. -/
structure SyntaxError where
  line : Nat
  column : Nat
  message : String
  deriving DecidableEq, Repr

def Fault.toError (fault : Fault) (document : List Char) : SyntaxError :=
  let read := byteSize document - byteSize fault.left + fault.beyond
  let (line, column) := placeAfter 1 0 read document
  ⟨line, column,
    fault.cause.message ++ " at line " ++ toString line ++ " column " ++ toString column⟩

end JsonClasses.Json
