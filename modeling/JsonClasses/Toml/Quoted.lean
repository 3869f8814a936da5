import JsonClasses.Text.Digit

/-! # Strings in TOML

Four kinds: with or without escapes, on one line or on several. The characters read so far are
handed along, latest first. -/
namespace JsonClasses.Toml.Quoted

def isBlank (c : Char) : Bool := c == ' ' || c == '\t'

/-- Characters that may stand in a comment and, quotes and escapes apart, in a string. -/
def isPlain (c : Char) : Bool := c == '\t' || (' ' ≤ c && c != '\x7f')

/-- Reads a character given by some hexadecimal digits. -/
def hexChar? (count : Nat) (cs : List Char) : Option (Char × List Char) := do
  let digits := cs.take count
  let n ← Text.hexNumber? digits
  if digits.length = count ∧ n.isValidChar then some (Char.ofNat n, cs.drop count) else none

def simpleEscape? : Char → Option Char
  | 'b' => some '\x08'
  | 't' => some '\t'
  | 'n' => some '\n'
  | 'f' => some '\x0c'
  | 'r' => some '\r'
  | 'e' => some '\x1b'
  | '"' => some '"'
  | '\\' => some '\\'
  | _ => none

/-- Reads what follows a backslash. -/
def escape? : List Char → Option (Char × List Char)
  | 'x' :: rest => hexChar? 2 rest
  | 'u' :: rest => hexChar? 4 rest
  | 'U' :: rest => hexChar? 8 rest
  | c :: rest => (simpleEscape? c).map fun plain => (plain, rest)
  | [] => none

abbrev Reading := Option (String × List Char)

def closing (done rest : List Char) : Reading := some (String.ofList done.reverse, rest)

/-- Reads a literal string behind its opening quote. -/
def literal (done : List Char) : List Char → Reading
  | [] => none
  | '\'' :: rest => closing done rest
  | c :: rest => if isPlain c then literal (c :: done) rest else none

/-- Reads a basic string behind its opening quote; `fuel` exceeds the number of characters. -/
def basic (fuel : Nat) (done : List Char) (cs : List Char) : Reading :=
  match fuel, cs with
  | 0, _ | _, [] => none
  | _, '"' :: rest => closing done rest
  | fuel + 1, '\\' :: rest => (escape? rest).bind fun (c, rest) => basic fuel (c :: done) rest
  | fuel + 1, c :: rest => if isPlain c then basic fuel (c :: done) rest else none

/-! ## Several lines -/

/-- A line break right behind the opening quotes does not count. -/
def dropBreak : List Char → List Char
  | '\n' :: rest => rest
  | '\r' :: '\n' :: rest => rest
  | rest => rest

/-- Ends a string of several lines at three quotes; up to two more belong to the string. -/
def closingThree (quote : Char) (done rest : List Char) : Reading :=
  let more := rest.takeWhile (· == quote)
  if more.length ≤ 2 then closing (more ++ done) (rest.drop more.length) else none

def literalLines (done : List Char) : List Char → Reading
  | [] => none
  | '\'' :: '\'' :: '\'' :: rest => closingThree '\'' done rest
  | '\r' :: '\n' :: rest => literalLines ('\n' :: '\r' :: done) rest
  | c :: rest => if isPlain c || c == '\n' then literalLines (c :: done) rest else none

/-- What follows a backslash at the end of a line: all white space is dropped. -/
def continuation? (cs : List Char) : Option (List Char) :=
  let isWhite (c : Char) : Bool := isBlank c || c == '\n' || c == '\r'
  match cs.dropWhile isBlank with
  | '\n' :: rest => some (rest.dropWhile isWhite)
  | '\r' :: '\n' :: rest => some (rest.dropWhile isWhite)
  | _ => none

def basicLines (fuel : Nat) (done : List Char) (cs : List Char) : Reading :=
  match fuel, cs with
  | 0, _ | _, [] => none
  | _, '"' :: '"' :: '"' :: rest => closingThree '"' done rest
  | fuel + 1, '\\' :: rest =>
      match continuation? rest with
      | some rest => basicLines fuel done rest
      | none => (escape? rest).bind fun (c, rest) => basicLines fuel (c :: done) rest
  | fuel + 1, '\r' :: '\n' :: rest => basicLines fuel ('\n' :: '\r' :: done) rest
  | fuel + 1, c :: rest =>
      if isPlain c || c == '\n' then basicLines fuel (c :: done) rest else none

/-- Reads a string of one line, if the text starts with one. -/
def oneLine? : List Char → Option Reading
  | '"' :: rest => some (basic (rest.length + 1) [] rest)
  | '\'' :: rest => some (literal [] rest)
  | _ => none

/-- Reads a string of any kind, if the text starts with one. -/
def any? : List Char → Option Reading
  | '"' :: '"' :: '"' :: rest => some (basicLines (rest.length + 1) [] (dropBreak rest))
  | '\'' :: '\'' :: '\'' :: rest => some (literalLines [] (dropBreak rest))
  | cs => oneLine? cs

end JsonClasses.Toml.Quoted
