import JsonClasses.Unicode.Property

/-! # String literals

Control characters are written in octal: a Unicode escape would be replaced before the literal is
read, and could end it. -/
namespace JsonClasses.Java
open Unicode

def octalDigit (n : Nat) : Char := Char.ofNat ('0'.toNat + n % 8)

/-- Three octal digits. -/
def octalEscape (n : Nat) : List Char :=
  ['\\', octalDigit (n / 64), octalDigit (n / 8), octalDigit n]

def literalChar (c : Char) : List Char :=
  if c = '"' then ['\\', '"']
  else if c = '\\' then ['\\', '\\']
  else if c = '\n' then ['\\', 'n']
  else if c = '\r' then ['\\', 'r']
  else if c = '\t' then ['\\', 't']
  else if isControl c then octalEscape c.toNat
  else [c]

def literalOf (s : String) : String :=
  String.ofList ('"' :: s.toList.flatMap literalChar ++ ['"'])

end JsonClasses.Java
