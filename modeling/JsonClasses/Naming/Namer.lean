import JsonClasses.GenerationError
import JsonClasses.Java.Identifier
import JsonClasses.ValueType

/-! # Naming rules

A namer turns a raw name into an identifier and may look at the type of what is named. The standard
namer ignores the type: it respells the words of the raw name and repairs the result. -/
namespace JsonClasses

abbrev Namer := String → ValueType → Except GenerationError String

namespace Namer

/-- Fails on a raw name without words. -/
def standard (role : Role) (spelling : Spelling) : Namer := fun raw _ =>
  match Words.split raw with
  | [] => .error (.unusableName raw role)
  | words => .ok (Java.repair (spelling.join words))

end Namer

/-- The spelling of each kind of name. -/
structure Spellings where
  className : Spelling := Role.usualSpelling .className
  field : Spelling := Role.usualSpelling .field
  method : Spelling := Role.usualSpelling .method
  parameter : Spelling := Role.usualSpelling .parameter
  deriving DecidableEq, Repr

def Spellings.get (spellings : Spellings) : Role → Spelling
  | .className => spellings.className
  | .field => spellings.field
  | .method => spellings.method
  | .parameter => spellings.parameter

/-- A namer for each kind of name. -/
structure Namers where
  className : Namer
  field : Namer
  method : Namer
  parameter : Namer

namespace Namers

/-- The standard namers with these spellings. -/
def ofSpellings (spellings : Spellings) : Namers where
  className := .standard .className spellings.className
  field := .standard .field spellings.field
  method := .standard .method spellings.method
  parameter := .standard .parameter spellings.parameter

def standard : Namers := ofSpellings {}

/-- The standard namers with one spelling for all names. -/
def uniform (spelling : Spelling) : Namers :=
  ofSpellings ⟨spelling, spelling, spelling, spelling⟩

end Namers
end JsonClasses
