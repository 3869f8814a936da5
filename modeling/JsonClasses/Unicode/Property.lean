import JsonClasses.Unicode.Alphabetic
import JsonClasses.Unicode.Numeric
import JsonClasses.Unicode.Uppercase
import JsonClasses.Unicode.Lowercase
import JsonClasses.Unicode.CaseIgnorable
import JsonClasses.Unicode.GraphemeExtend
import JsonClasses.Unicode.Unprintable
import JsonClasses.Unicode.UpperMapping
import JsonClasses.Unicode.LowerMapping

/-! # Properties of characters -/
namespace JsonClasses.Unicode

def isAlphabetic (c : Char) : Bool := covers alphabeticRanges c.toNat

def isNumeric (c : Char) : Bool := covers numericRanges c.toNat

def isAlphanumeric (c : Char) : Bool := isAlphabetic c || isNumeric c

def isUppercase (c : Char) : Bool := covers uppercaseRanges c.toNat

def isLowercase (c : Char) : Bool := covers lowercaseRanges c.toNat

def titlecaseRanges : List Range :=
  [(0x1C5, 0x1C5), (0x1C8, 0x1C8), (0x1CB, 0x1CB), (0x1F2, 0x1F2), (0x1F88, 0x1F8F),
   (0x1F98, 0x1F9F), (0x1FA8, 0x1FAF), (0x1FBC, 0x1FBC), (0x1FCC, 0x1FCC), (0x1FFC, 0x1FFC)]

/-- Upper-case, lower-case and titlecase characters. -/
def isCased (c : Char) : Bool :=
  isUppercase c || isLowercase c || covers titlecaseRanges c.toNat

def isCaseIgnorable (c : Char) : Bool := covers caseIgnorableRanges c.toNat

def whiteSpaceRanges : List Range :=
  [(0x9, 0xD), (0x20, 0x20), (0x85, 0x85), (0xA0, 0xA0), (0x1680, 0x1680), (0x2000, 0x200A),
   (0x2028, 0x2029), (0x202F, 0x202F), (0x205F, 0x205F), (0x3000, 0x3000)]

def isWhiteSpace (c : Char) : Bool := covers whiteSpaceRanges c.toNat

def isControl (c : Char) : Bool := covers [(0x0, 0x1F), (0x7F, 0x9F)] c.toNat

def isGraphemeExtend (c : Char) : Bool := covers graphemeExtendRanges c.toNat

def isUnprintable (c : Char) : Bool := covers unprintableRanges c.toNat

/-- The upper case of a character alone; it may be several characters. -/
def upperCase (c : Char) : List Char :=
  match expansion? upperExpansions c.toNat with
  | some images => images.map Char.ofNat
  | none => [Char.ofNat (shifted upperShifts c.toNat)]

/-- The lower case of a character alone; it may be several characters. -/
def lowerCase (c : Char) : List Char :=
  match expansion? lowerExpansions c.toNat with
  | some images => images.map Char.ofNat
  | none => [Char.ofNat (shifted lowerShifts c.toNat)]

end JsonClasses.Unicode
