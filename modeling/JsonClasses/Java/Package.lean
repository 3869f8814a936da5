import JsonClasses.Disk.Path
import JsonClasses.GenerationError
import JsonClasses.Java.Identifier
import JsonClasses.Text.Separated

/-! # Packages

A package is empty or a list of identifiers with dots between them. -/
namespace JsonClasses.Java

def packageSegments (package : String) : List String := Text.separated '.' package

def isPackage (package : String) : Bool :=
  package.isEmpty || (packageSegments package).all isIdentifier

def checkPackage (package : String) : Except GenerationError Unit :=
  if isPackage package then .ok () else .error (.illegalPackage package)

/-- The directory of a package, as a relative path. -/
def packageDirectory (package : String) : String :=
  ((packageSegments package).filter fun segment => !segment.isEmpty).foldl Path.join ""

/-- The file of a class below a directory. -/
def sourcePath (directory package className : String) : String :=
  Path.join (Path.join directory (packageDirectory package)) (className ++ ".java")

end JsonClasses.Java
