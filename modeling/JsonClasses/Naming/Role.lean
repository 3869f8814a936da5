import JsonClasses.Naming.Spelling

/-! # What a name is for -/
namespace JsonClasses

inductive Role
  | className
  | field
  | method
  | parameter
  deriving DecidableEq, Repr

namespace Role

def name : Role → String
  | className => "class"
  | field => "field"
  | method => "method"
  | parameter => "parameter"

def usualSpelling : Role → Spelling
  | className => .upperCamel
  | field | method | parameter => .lowerCamel

end Role
end JsonClasses
