import JsonClasses.Json.Basic
import JsonClasses.Json.Decimal
import JsonClasses.Json.Quoted

/-! # Reading JSON text

A value is read from the front of the text and the rest is handed on. Containers nest at most
`deepest` levels. -/
namespace JsonClasses.Json

def isBlank (c : Char) : Bool := c == ' ' || c == '\t' || c == '\n' || c == '\r'

def skipBlanks (cs : List Char) : List Char := cs.dropWhile isBlank

def deepest : Nat := 127

/-- Reads the rest of `null`, `true` or `false`. -/
def readIdent (value : Json) : List Char → List Char → Except Fault (Json × List Char)
  | [], cs => .ok (value, cs)
  | _ :: _, [] => failAt .endInValue [] 0
  | expected :: more, c :: rest =>
      if c = expected then readIdent value more rest else failAt .notIdent (c :: rest) 1

/-- Reads a value that is neither an array nor an object. -/
def readLeaf (cs : List Char) : Except Fault (Json × List Char) := do
  match cs with
  | [] => failNext .endInValue []
  | 'n' :: rest => readIdent .null ['u', 'l', 'l'] rest
  | 't' :: rest => readIdent (.bool true) ['r', 'u', 'e'] rest
  | 'f' :: rest => readIdent (.bool false) ['a', 'l', 's', 'e'] rest
  | '"' :: rest =>
      let (s, rest) ← readString rest
      .ok (.text s, rest)
  | '-' :: rest =>
      let (x, rest) ← Decimal.read rest
      .ok (.number (-x), rest)
  | c :: _ =>
      if c.isDigit then
        let (x, rest) ← Decimal.read cs
        .ok (.number x, rest)
      else failNext .notValue cs

/-- Finds the next element of an array: nothing behind the closing bracket. -/
def nextElement (first : Bool) (cs : List Char) : Except Fault (Bool × List Char) :=
  match skipBlanks cs with
  | [] => failNext .endInList []
  | ']' :: rest => .ok (false, rest)
  | c :: rest =>
      if first then .ok (true, c :: rest)
      else if c = ',' then
        match skipBlanks rest with
        | [] => failNext .endInValue []
        -- the array could end here, but not behind a comma
        | ']' :: rest => failNext .trailingComma (']' :: rest)
        | rest => .ok (true, rest)
      else failNext .notListEnd (c :: rest)

/-- Finds the next key of an object, behind its opening quote: nothing behind the closing brace. -/
def nextKey (first : Bool) (cs : List Char) : Except Fault (Bool × List Char) :=
  match skipBlanks cs with
  | [] => failNext .endInObject []
  | '}' :: rest => .ok (false, rest)
  | c :: rest =>
      if first then
        if c = '"' then .ok (true, rest) else failNext .keyNotString (c :: rest)
      else if c = ',' then
        match skipBlanks rest with
        | [] => failNext .endInValue []
        | '"' :: rest => .ok (true, rest)
        -- the object could end here, but not behind a comma
        | '}' :: rest => failNext .trailingComma ('}' :: rest)
        | rest => failNext .keyNotString rest
      else failNext .notObjectEnd (c :: rest)

def readColon (cs : List Char) : Except Fault (List Char) :=
  match skipBlanks cs with
  | [] => failNext .endInObject []
  | ':' :: rest => .ok rest
  | rest => failNext .notColon rest

mutual

/-- Reads a value; `fuel` bounds the values, elements and members in it. -/
def readValue (fuel levels : Nat) (cs : List Char) : Except Fault (Json × List Char) :=
  match fuel with
  | 0 => failNext .endInValue cs
  | fuel + 1 =>
      match skipBlanks cs with
      | '[' :: rest =>
          if levels = 0 then failNext .tooDeep ('[' :: rest)
          else readElements fuel (levels - 1) true [] rest
      | '{' :: rest =>
          if levels = 0 then failNext .tooDeep ('{' :: rest)
          else readMembers fuel (levels - 1) true [] rest
      | rest => readLeaf rest

def readElements (fuel levels : Nat) (first : Bool) (done : List Json) (cs : List Char) :
    Except Fault (Json × List Char) :=
  match fuel with
  | 0 => failNext .endInList cs
  | fuel + 1 =>
      match nextElement first cs with
      | .error fault => .error fault
      | .ok (false, rest) => .ok (.array done.reverse, rest)
      | .ok (true, rest) =>
          match readValue fuel levels rest with
          | .error fault => .error fault
          | .ok (value, rest) => readElements fuel levels false (value :: done) rest

def readMembers (fuel levels : Nat) (first : Bool) (done : List (String × Json))
    (cs : List Char) : Except Fault (Json × List Char) :=
  match fuel with
  | 0 => failNext .endInObject cs
  | fuel + 1 =>
      match nextKey first cs with
      | .error fault => .error fault
      | .ok (false, rest) => .ok (.object done, rest)
      | .ok (true, rest) =>
          match readString rest with
          | .error fault => .error fault
          | .ok (key, rest) =>
              match readColon rest with
              | .error fault => .error fault
              | .ok rest =>
                  match readValue fuel levels rest with
                  | .error fault => .error fault
                  | .ok (value, rest) =>
                      readMembers fuel levels false (putEntry done key value) rest

end

/-- Each value, element and member takes at least one character, so this much fuel lasts. -/
def fuelFor (cs : List Char) : Nat := 2 * cs.length + 2

def readDocument (cs : List Char) : Except Fault Json :=
  match readValue (fuelFor cs) deepest cs with
  | .error fault => .error fault
  | .ok (value, rest) =>
      match skipBlanks rest with
      | [] => .ok value
      | rest => failNext .trailingCharacters rest

/-- Reads a complete JSON document. -/
def read (document : String) : Except SyntaxError Json :=
  (readDocument document.toList).mapError fun fault => fault.toError document.toList

end JsonClasses.Json
