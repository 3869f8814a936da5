import JsonClasses.Json.Basic
import JsonClasses.Json.Fault
import JsonClasses.Naming.Role

/-! # Why no class could be generated -/
namespace JsonClasses

inductive GenerationError
  /-- The text is not JSON. -/
  | malformedText (error : Json.SyntaxError)
  /-- The document is neither an object nor an array. -/
  | scalarRoot (kind : Json.Kind)
  /-- No identifier could be made of a name. -/
  | unusableName (name : String) (role : Role)
  /-- The package is not a dotted list of identifiers. -/
  | illegalPackage (package : String)
  /-- The source could not be written. -/
  | unwritable (reason : String)
  deriving DecidableEq, Repr

namespace GenerationError

def message : GenerationError → String
  | malformedText error =>
      "invalid JSON at line " ++ toString error.line ++ ", column " ++ toString error.column ++
        ": " ++ error.message
  | scalarRoot kind => "invalid root: expected an object or array, got " ++ kind.name
  | unusableName name role => "cannot convert '" ++ name ++ "' to a " ++ role.name ++ " name"
  | illegalPackage package => "invalid package name: '" ++ package ++ "'"
  | unwritable reason => "render error: " ++ reason

/-- A number that stays the same from release to release. -/
def code : GenerationError → Nat
  | malformedText _ => 1
  | scalarRoot _ => 2
  | unusableName _ _ => 3
  | illegalPackage _ => 4
  | unwritable _ => 5

end GenerationError
end JsonClasses
