import JsonClasses.Unicode.Property

/-! # Identifiers

An identifier starts with a letter, `_` or `$`, goes on with letters, digits, `_` and `$`, and is
not a keyword. -/
namespace JsonClasses.Java
open Unicode

/-- Keywords and literals, `_` among them. -/
def keywords : List String :=
  ["_", "abstract", "assert", "boolean", "break", "byte", "case", "catch", "char", "class",
   "const", "continue", "default", "do", "double", "else", "enum", "extends", "false", "final",
   "finally", "float", "for", "goto", "if", "implements", "import", "instanceof", "int",
   "interface", "long", "native", "new", "null", "package", "private", "protected", "public",
   "return", "short", "static", "strictfp", "super", "switch", "synchronized", "this", "throw",
   "throws", "transient", "true", "try", "void", "volatile", "while"]

def isKeyword (s : String) : Bool := keywords.contains s

def startsIdentifier (c : Char) : Bool := isAlphabetic c || c == '_' || c == '$'

def continuesIdentifier (c : Char) : Bool := isAlphanumeric c || c == '_' || c == '$'

def isIdentifier (s : String) : Bool :=
  match s.toList with
  | [] => false
  | c :: rest => startsIdentifier c && rest.all continuesIdentifier && !isKeyword s

/-! ## Repair -/

/-- Puts `_` before a character that may stand in an identifier but not at its start. -/
def guardStart : List Char → List Char
  | [] => []
  | c :: rest => if startsIdentifier c then c :: rest else '_' :: c :: rest

/-- Puts `_` behind a keyword. -/
def guardKeyword (s : String) : String := if isKeyword s then s ++ "_" else s

/-- Turns a text into an identifier: characters that may not stand in one become `_`. -/
def repair (s : String) : String :=
  guardKeyword <| String.ofList <|
    guardStart (s.toList.map fun c => if continuesIdentifier c then c else '_')

end JsonClasses.Java
