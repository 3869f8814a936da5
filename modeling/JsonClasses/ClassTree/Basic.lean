import JsonClasses.Style
import JsonClasses.ValueType

/-! # Class trees

A class with its properties and the classes nested in it. -/
namespace JsonClasses

/-- A key of an object with the names of the members that belong to it. -/
structure Property where
  key : String
  type : ValueType
  field : String
  parameter : String
  getter : Option String
  setter : Option String
  builderMethod : Option String
  deriving DecidableEq, Repr

namespace Property

/-- The names of the methods that read or write the property. -/
def accessors (property : Property) : List String :=
  property.getter.toList ++ property.setter.toList

/-- Whether a property cannot stand behind another in one class. Fields share one name space,
getters and setters another, and builder methods a third. -/
def clashesWith (property earlier : Property) : Bool :=
  earlier.field == property.field ||
    property.accessors.any (fun name => earlier.accessors.contains name) ||
    (property.builderMethod.isSome && earlier.builderMethod == property.builderMethod)

end Property

structure ClassTree where
  name : String
  modifiers : List Modifier
  style : Style
  properties : List Property
  nested : List ClassTree

namespace ClassTree

def keys (tree : ClassTree) : List String := tree.properties.map (·.key)

def property? (tree : ClassTree) (key : String) : Option Property :=
  tree.properties.find? fun property => property.key == key

/-- A class nested directly in this one. -/
def nested? (tree : ClassTree) (name : String) : Option ClassTree :=
  tree.nested.find? fun inner => inner.name == name

def isStatic (tree : ClassTree) : Bool := tree.modifiers.contains .static

mutual

/-- The class and all classes nested in it, each before those nested in it. -/
def subtrees : ClassTree → List ClassTree
  | ⟨name, modifiers, style, properties, nested⟩ =>
      ⟨name, modifiers, style, properties, nested⟩ :: subtreesOf nested

def subtreesOf : List ClassTree → List ClassTree
  | [] => []
  | tree :: rest => subtrees tree ++ subtreesOf rest

end

/-- Whether any property in the tree is a list. -/
def mentionsList (tree : ClassTree) : Bool :=
  tree.subtrees.any fun c => c.properties.any fun property => property.type.isList

end ClassTree
end JsonClasses
