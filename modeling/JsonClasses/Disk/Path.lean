import JsonClasses.Text.Separated

/-! # Paths as texts

A path is kept as it was given. Its parts are the texts between the slashes; the first part of an
absolute path is empty. -/
namespace JsonClasses.Path

/-- One path behind another: an absolute path takes the place of the one before it, any other is
put behind a slash. Nothing else is changed. -/
def join (left right : String) : String :=
  match right.toList.head?, left.toList.getLast? with
  | some '/', _ => right
  | _, none => right
  | _, some '/' => left ++ right
  | _, some _ => left ++ "/" ++ right

def parts (path : String) : List String := Text.separated '/' path

/-- The parts without the empty ones that slashes at the end leave. -/
def namedParts (path : String) : List String :=
  ((parts path).reverse.dropWhile (· == "")).reverse

def endsInSlash (path : String) : Bool := path.toList.getLast? == some '/'

def isAbsolute (path : String) : Bool := path.toList.head? == some '/'

/-! ## Parents -/

/-- Drops the parts at the end that name nothing, but never the first part. -/
def dropVoidEnd : List String → List String
  | [] => []
  | first :: rest =>
      first :: (rest.reverse.dropWhile fun part => part == "" || part == ".").reverse

def ofParts : List String → String
  | [""] => "/"
  | parts => String.intercalate "/" parts

/-- The path without its last component; neither the root nor the empty path has a parent. -/
def parent? (path : String) : Option String :=
  match dropVoidEnd (parts path) with
  | [""] => none
  | components => some (ofParts (dropVoidEnd components.dropLast))

/-- The path, its parent, the parent of that, and so on; `fuel` exceeds the number of parts. -/
def ancestorsFrom (fuel : Nat) (path : String) : List String :=
  match fuel with
  | 0 => []
  | fuel + 1 =>
      path :: match parent? path with
        | none => []
        | some parent => ancestorsFrom fuel parent

def ancestors (path : String) : List String := ancestorsFrom ((parts path).length + 1) path

end JsonClasses.Path
