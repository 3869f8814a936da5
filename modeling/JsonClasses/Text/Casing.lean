import JsonClasses.Unicode.Property

/-! # Letter case of whole texts

Lower-casing a text depends on one context: a capital sigma that ends a word becomes `ς`.
Capitalizing does not look at the context. -/
namespace JsonClasses.Text
open Unicode

/-- Whether the nearest character that is not case-ignorable is cased. -/
def meetsCased (cs : List Char) : Bool :=
  match cs.dropWhile isCaseIgnorable with
  | [] => false
  | c :: _ => isCased c

/-- The lower case of `c` between the characters before it, nearest first, and those after it. -/
def lowerBetween (before : List Char) (c : Char) (after : List Char) : List Char :=
  if c = 'Σ' then
    -- a sigma ends its word when cased characters stand before it and none behind it
    if meetsCased before && !meetsCased after then ['ς'] else ['σ']
  else lowerCase c

def lowerFrom (before : List Char) : List Char → List Char
  | [] => []
  | c :: rest => lowerBetween before c rest ++ lowerFrom (c :: before) rest

def lower (s : String) : String := String.ofList (lowerFrom [] s.toList)

def upper (s : String) : String := String.ofList (s.toList.flatMap upperCase)

/-- The first character in upper case, the others in lower case, each on its own. -/
def capitalizeChars : List Char → List Char
  | [] => []
  | c :: rest => upperCase c ++ rest.flatMap lowerCase

def capitalize (s : String) : String := String.ofList (capitalizeChars s.toList)

/-- The text without the white space at its two ends. -/
def trim (s : String) : String :=
  String.ofList
    (((s.toList.dropWhile isWhiteSpace).reverse.dropWhile isWhiteSpace).reverse)

end JsonClasses.Text
