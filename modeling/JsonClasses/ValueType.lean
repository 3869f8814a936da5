import JsonClasses.Json.Basic

/-! # Types of values

What one sample tells about the type of a value: a scalar, a class of the same tree, or a list. -/
namespace JsonClasses

/-- Kinds of leaves. No sample has an `integer`; `object` stands for `null` and for a missing
element. -/
inductive Scalar
  | boolean
  | integer
  | decimal
  | string
  | object
  deriving DecidableEq, Repr

inductive ValueType
  | scalar (kind : Scalar)
  | named (name : String)
  | list (element : ValueType)
  deriving DecidableEq, Repr

namespace ValueType

abbrev anyObject : ValueType := scalar .object

/-- How many lists are around the innermost type. -/
def layers : ValueType → Nat
  | list element => element.layers + 1
  | _ => 0

/-- The type inside all lists. -/
def innermost : ValueType → ValueType
  | list element => element.innermost
  | type => type

def isList : ValueType → Bool
  | list _ => true
  | _ => false

def isBoolean : ValueType → Bool
  | scalar .boolean => true
  | _ => false

end ValueType

def Scalar.name : Scalar → String
  | boolean => "Boolean"
  | integer => "Integer"
  | decimal => "Decimal"
  | string => "String"
  | object => "Object"

def ValueType.describe : ValueType → String
  | scalar kind => kind.name
  | named name => name
  | list element => "List<" ++ element.describe ++ ">"

/-- The type of a value that is not a container. A number is always a decimal, since one sample
cannot tell that all values are whole. -/
def Json.scalar? : Json → Option Scalar
  | null => some .object
  | bool _ => some .boolean
  | number _ => some .decimal
  | text _ => some .string
  | array _ | object _ => none

end JsonClasses
