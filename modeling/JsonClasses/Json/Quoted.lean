import JsonClasses.Json.Fault
import JsonClasses.Text.Digit

/-! # Strings in JSON text -/
namespace JsonClasses.Json

/-- Reads the four bytes of a hexadecimal escape. -/
def readHex (cs : List Char) : Except Fault (Nat × List Char) :=
  if byteSize (cs.take 4) < 4 then failAt .endInString [] 0
  else match Text.hexNumber? (cs.take 4) with
    | some n => .ok (n, cs.drop 4)
    | none => failAt .badEscape cs 4

def isLeadingSurrogate (n : Nat) : Bool := 0xD800 ≤ n && n ≤ 0xDBFF

def isTrailingSurrogate (n : Nat) : Bool := 0xDC00 ≤ n && n ≤ 0xDFFF

def pairedSurrogates (leading trailing : Nat) : Char :=
  Char.ofNat (0x10000 + (leading - 0xD800) * 0x400 + (trailing - 0xDC00))

/-- Reads the second half of a surrogate pair. -/
def readTrailing (leading : Nat) (cs : List Char) : Except Fault (Char × List Char) := do
  match cs with
  | [] => failAt .endInString [] 0
  | '\\' :: rest =>
      match rest with
      | [] => failAt .endInString [] 0
      | 'u' :: rest =>
          let (trailing, rest) ← readHex rest
          if isTrailingSurrogate trailing then .ok (pairedSurrogates leading trailing, rest)
          else failAt .loneSurrogate rest 0
      | _ => failAt .halfSurrogatePair rest 1
  | _ => failAt .halfSurrogatePair cs 1

def plainEscape? : Char → Option Char
  | '"' => some '"'
  | '\\' => some '\\'
  | '/' => some '/'
  | 'b' => some '\x08'
  | 'f' => some '\x0c'
  | 'n' => some '\n'
  | 'r' => some '\r'
  | 't' => some '\t'
  | _ => none

/-- Reads what follows a backslash. -/
def readEscape : List Char → Except Fault (Char × List Char)
  | [] => failAt .endInString [] 0
  | 'u' :: rest => do
      let (n, rest) ← readHex rest
      if isLeadingSurrogate n then readTrailing n rest
      else if isTrailingSurrogate n then failAt .loneSurrogate rest 0
      else .ok (Char.ofNat n, rest)
  | c :: rest =>
      match plainEscape? c with
      | some plain => .ok (plain, rest)
      | none => failAt .badEscape (c :: rest) 1

/-- Reads the characters up to the closing quote; `fuel` exceeds the number of characters. -/
def readQuoted (fuel : Nat) (done : List Char) (cs : List Char) :
    Except Fault (String × List Char) :=
  match fuel, cs with
  | 0, _ | _, [] => failAt .endInString [] 0
  | _, '"' :: rest => .ok (String.ofList done.reverse, rest)
  | fuel + 1, '\\' :: rest =>
      match readEscape rest with
      | .error fault => .error fault
      | .ok (c, rest) => readQuoted fuel (c :: done) rest
  | fuel + 1, c :: rest =>
      if c < ' ' then failAt .controlCharacter (c :: rest) 1
      else readQuoted fuel (c :: done) rest

/-- Reads a string whose opening quote has been read. -/
def readString (cs : List Char) : Except Fault (String × List Char) :=
  readQuoted (cs.length + 1) [] cs

end JsonClasses.Json
