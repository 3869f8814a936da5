/-! # JSON values

Objects keep their entries in document order. -/
namespace JsonClasses

inductive Json
  | null
  | bool (b : Bool)
  | number (x : Float)
  | text (s : String)
  | array (elements : List Json)
  | object (entries : List (String × Json))

namespace Json

/-- The shape of a value without its contents. -/
inductive Kind
  | null
  | boolean
  | number
  | string
  | array
  | object
  deriving DecidableEq, Repr

def Kind.name : Kind → String
  | null => "null"
  | boolean => "boolean"
  | number => "number"
  | string => "string"
  | array => "array"
  | object => "object"

def kind : Json → Kind
  | null => .null
  | bool _ => .boolean
  | number _ => .number
  | text _ => .string
  | array _ => .array
  | object _ => .object

/-- Arrays and objects. -/
def isStructured : Json → Bool
  | array _ | object _ => true
  | _ => false

/-- The first element of an array. -/
def head? : Json → Option Json
  | array elements => elements.head?
  | _ => none

mutual

/-- The entries of the object that a value leads to: its own, or those of the object that first
elements lead to. -/
def reachedObject? : Json → Option (List (String × Json))
  | object entries => some entries
  | array elements => reachedFrom? elements
  | _ => none

def reachedFrom? : List Json → Option (List (String × Json))
  | [] => none
  | first :: _ => reachedObject? first

end

/-- A repeated key keeps its place and takes the new value. -/
def putEntry (entries : List (String × Json)) (key : String) (value : Json) :
    List (String × Json) :=
  match entries with
  | [] => [(key, value)]
  | (k, v) :: rest => if k = key then (k, value) :: rest else (k, v) :: putEntry rest key value

end Json
end JsonClasses
