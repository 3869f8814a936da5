import JsonClasses.Toml.Quoted
import JsonClasses.Toml.Sound

/-! # Reading TOML text

A document is read line by line: a header opens a table, an entry is put into the open table. -/
namespace JsonClasses.Toml
open Quoted (isBlank isPlain)

def skipBlanks (cs : List Char) : List Char := cs.dropWhile isBlank

def skipComment : List Char → List Char
  | '#' :: rest => rest.dropWhile isPlain
  | cs => cs

/-- What follows the end of a line: blanks and a comment may stand before it. -/
def endLine? (cs : List Char) : Option (List Char) :=
  match skipComment (skipBlanks cs) with
  | [] => some []
  | '\n' :: rest => some rest
  | '\r' :: '\n' :: rest => some rest
  | _ => none

/-- Skips blanks, line breaks and comments; `fuel` exceeds the number of characters. -/
def skipLines? (fuel : Nat) (cs : List Char) : Option (List Char) :=
  match fuel with
  | 0 => none
  | fuel + 1 =>
      match skipBlanks cs with
      | '\n' :: rest => skipLines? fuel rest
      | '\r' :: '\n' :: rest => skipLines? fuel rest
      | '#' :: rest =>
          (endLine? ('#' :: rest)).bind fun rest =>
            if rest.isEmpty then some [] else skipLines? fuel rest
      | rest => some rest

/-! ## Keys -/

def isBareKeyChar (c : Char) : Bool := c.isAlphanum || c == '_' || c == '-'

def simpleKey? (cs : List Char) : Option (String × List Char) :=
  match Quoted.oneLine? cs with
  | some reading => reading
  | none =>
      let bare := cs.takeWhile isBareKeyChar
      if bare.isEmpty then none else some (String.ofList bare, cs.dropWhile isBareKeyChar)

/-- Reads a key of at most `parts` parts, which are joined by dots: its path and its last part. -/
def key? (parts : Nat) (cs : List Char) : Option ((List String × String) × List Char) :=
  match parts with
  | 0 => none
  | parts + 1 => do
      let (part, rest) ← simpleKey? cs
      match skipBlanks rest with
      | '.' :: more =>
          let ((path, last), rest) ← key? parts (skipBlanks more)
          return ((part :: path, last), rest)
      | rest => return (([], part), rest)

/-- How many parts a key may have, and how deep arrays and tables in braces may nest. -/
def deepest : Nat := 80

/-- Reads a key, with the blanks around it. -/
def readKey? (cs : List Char) : Option ((List String × String) × List Char) :=
  key? deepest (skipBlanks cs)

/-! ## Values -/

def isTokenChar (c : Char) : Bool :=
  !(isBlank c || c == '\n' || c == '\r' || c == ',' || c == ']' || c == '}' || c == '#')

/-- The characters of a value that is not quoted. A date may be followed by a blank and a time. -/
def token (cs : List Char) : List Char × List Char :=
  let first := cs.takeWhile isTokenChar
  let rest := cs.dropWhile isTokenChar
  match rest with
  | ' ' :: c :: more =>
      if DateTime.afterDate? first == some [] && c.isDigit then
        (first ++ ' ' :: (c :: more).takeWhile isTokenChar, (c :: more).dropWhile isTokenChar)
      else (first, rest)
  | _ => (first, rest)

def unquoted? (cs : List Char) : Option Value :=
  if cs = ['t', 'r', 'u', 'e'] then some (.boolean true)
  else if cs = ['f', 'a', 'l', 's', 'e'] then some (.boolean false)
  else if DateTime.isValid cs then some (.dateTime (String.ofList cs))
  else match Number.integer? cs with
    | some n => some (.integer n)
    | none => if Number.isFloat cs then some (.float (String.ofList cs)) else none

mutual

def value? (fuel levels : Nat) (cs : List Char) : Option (Value × List Char) :=
  match fuel with
  | 0 => none
  | fuel + 1 =>
      -- an opened quote decides: what does not close it is not read in another way
      match Quoted.any? cs with
      | some reading => reading.map fun (s, rest) => (.text s, rest)
      | none =>
          match cs with
          | '[' :: rest => if levels = 0 then none else elements? fuel (levels - 1) [] rest
          | '{' :: rest => if levels = 0 then none else members? fuel (levels - 1) [] rest
          | _ => (unquoted? (token cs).1).map fun value => (value, (token cs).2)

/-- Reads elements up to the closing bracket; `done` holds the earlier ones, latest first. -/
def elements? (fuel levels : Nat) (done : List Value) (cs : List Char) :
    Option (Value × List Char) :=
  match fuel with
  | 0 => none
  | fuel + 1 => do
      match ← skipLines? (cs.length + 1) cs with
      | ']' :: rest => return (.array done.reverse, rest)
      | rest =>
          let (value, rest) ← value? fuel levels rest
          match ← skipLines? (rest.length + 1) rest with
          | ',' :: rest => elements? fuel levels (value :: done) rest
          | ']' :: rest => return (.array (value :: done).reverse, rest)
          | _ => none

/-- Reads members up to the closing brace. Lines may end anywhere but within a key. -/
def members? (fuel levels : Nat) (done : Table) (cs : List Char) : Option (Value × List Char) :=
  match fuel with
  | 0 => none
  | fuel + 1 => do
      match ← skipLines? (cs.length + 1) cs with
      | '}' :: rest => return (.table .inline done, rest)
      | rest =>
          let ((path, key), rest) ← readKey? rest
          match ← skipLines? (rest.length + 1) rest with
          | '=' :: rest =>
              let (value, rest) ← value? fuel levels (← skipLines? (rest.length + 1) rest)
              let done ← done.putDotted key value true path
              match ← skipLines? (rest.length + 1) rest with
              -- a comma may stand behind the last entry
              | ',' :: rest => members? fuel levels done rest
              | '}' :: rest => return (.table .inline done, rest)
              | _ => none
          | _ => none

end

/-! ## Lines -/

/-- The tables read so far, and the path of the open one. -/
structure Document where
  root : Table := []
  current : List String := []

namespace Document

/-- Reads a header behind its first bracket. -/
def header? (document : Document) (cs : List Char) : Option (Document × List Char) := do
  match cs with
  | '[' :: rest =>
      let ((path, key), rest) ← readKey? rest
      match rest with
      | ']' :: ']' :: rest =>
          let root ← document.root.alongHeader (Table.openNext key) path
          return (⟨root, path ++ [key]⟩, rest)
      | _ => none
  | _ =>
      let ((path, key), rest) ← readKey? cs
      match rest with
      | ']' :: rest =>
          let root ← document.root.alongHeader (Table.openTable key) path
          return (⟨root, path ++ [key]⟩, rest)
      | _ => none

def entry? (document : Document) (cs : List Char) : Option (Document × List Char) := do
  let ((path, key), rest) ← readKey? cs
  match rest with
  | '=' :: rest =>
      let (value, rest) ← value? (2 * rest.length + 2) deepest (skipBlanks rest)
      let root ← document.root.alongHeader (fun table => table.putDotted key value true path)
        document.current
      return ({ document with root }, rest)
  | _ => none

/-- Reads what a line holds besides blanks and a comment. -/
def line? (document : Document) (cs : List Char) : Option (Document × List Char) :=
  match skipBlanks cs with
  | [] => some (document, [])
  | '#' :: rest => some (document, '#' :: rest)
  | '\n' :: rest => some (document, '\n' :: rest)
  | '\r' :: rest => some (document, '\r' :: rest)
  | '[' :: rest => document.header? rest
  | rest => document.entry? rest

def lines? (fuel : Nat) (document : Document) (cs : List Char) : Option Document :=
  match fuel, cs with
  | _, [] => some document
  | 0, _ => none
  | fuel + 1, cs => do
      let (document, rest) ← document.line? cs
      lines? fuel document (← endLine? rest)

end Document

/-- Reads a document; a byte order mark may stand before it. -/
def read? (text : String) : Option Table :=
  let cs := match text.toList with
    | '\uFEFF' :: rest => rest
    | cs => cs
  ((Document.lines? (cs.length + 1) {} cs).map Document.root).filter entriesSound

end JsonClasses.Toml
