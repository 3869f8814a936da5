import JsonClasses.ValueType

/-! # Spelling of types

A type is declared by its plain spelling; inside a list the boxed spelling stands, since a type
argument cannot be primitive. -/
namespace JsonClasses.Java

def plainScalar : Scalar → String
  | .boolean => "boolean"
  | .integer => "long"
  | .decimal => "double"
  | .string => "String"
  | .object => "Object"

def boxedScalar : Scalar → String
  | .boolean => "Boolean"
  | .integer => "Long"
  | .decimal => "Double"
  | .string => "String"
  | .object => "Object"

def boxedType : ValueType → String
  | .scalar kind => boxedScalar kind
  | .named name => name
  | .list element => "List<" ++ boxedType element ++ ">"

def plainType : ValueType → String
  | .scalar kind => plainScalar kind
  | .named name => name
  | .list element => "List<" ++ boxedType element ++ ">"

def isPrimitive : ValueType → Bool
  | .scalar .boolean | .scalar .integer | .scalar .decimal => true
  | _ => false

end JsonClasses.Java
