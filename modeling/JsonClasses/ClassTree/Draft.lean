import JsonClasses.ClassTree.Basic
import JsonClasses.Naming.Candidates
import JsonClasses.Naming.Namer

/-! # Classes under construction

A draft takes properties one by one. A property gets its names when it is added, and they differ
from the names of the properties before it. -/
namespace JsonClasses

structure Draft where
  name : String
  style : Style
  namers : Namers
  modifiers : List Modifier := []
  properties : List Property := []
  nested : List ClassTree := []

namespace Draft

def withModifiers (draft : Draft) (modifiers : List Modifier) : Draft :=
  { draft with modifiers := Modifier.arranged (draft.modifiers ++ modifiers) }

def withNested (draft : Draft) (inner : ClassTree) : Draft :=
  { draft with nested := draft.nested ++ [inner] }

def toTree (draft : Draft) : ClassTree where
  name := draft.name
  modifiers := draft.modifiers
  style := draft.style
  properties := draft.properties
  nested := draft.nested

/-! ## Names of members -/

def equalsIgnoringAsciiCase (s t : String) : Bool :=
  s.toList.map Char.toLower == t.toList.map Char.toLower

/-- The raw name of a getter. A boolean's says `is`, unless the raw name already starts with that
word. -/
def getterRaw (raw : String) (type : ValueType) : String :=
  if type.isBoolean then
    match Words.split raw with
    | first :: _ => if equalsIgnoringAsciiCase first "is" then raw else "is " ++ raw
    | [] => "is " ++ raw
  else "get " ++ raw

def setterRaw (raw : String) : String := "set " ++ raw

/-- The name of a member that the style may leave out. -/
def nameWhen (wanted : Bool) (name : Except GenerationError String) :
    Except GenerationError (Option String) :=
  if wanted then name.map some else .ok none

/-- The property with all its names made from `raw`. -/
def propertyFrom (draft : Draft) (key : String) (type : ValueType) (raw : String) :
    Except GenerationError Property := do
  -- of several names that cannot be made, the first in this order is the one reported
  let field ← draft.namers.field raw type
  let parameter ← draft.namers.parameter raw type
  let getter ← nameWhen draft.style.hasGetters (draft.namers.method (getterRaw raw type) type)
  let setter ← nameWhen draft.style.hasSetters (draft.namers.method (setterRaw raw) type)
  let builderMethod ← nameWhen draft.style.hasBuilder (draft.namers.method raw type)
  .ok ⟨key, type, field, parameter, getter, setter, builderMethod⟩

def hasClash (draft : Draft) (property : Property) : Bool :=
  draft.properties.any fun earlier => property.clashesWith earlier

/-- A property has at most four members, so each earlier property allows for four candidates. -/
def memberAttempts (draft : Draft) : Nat := 4 * draft.properties.length + 2

/-- Adds a property, named after the first candidate without a clash. -/
def withProperty (draft : Draft) (key : String) (type : ValueType) :
    Except GenerationError Draft := do
  let property ← Candidates.search key (draft.propertyFrom key type) draft.hasClash
    (.unusableName key .field) draft.memberAttempts 0
  .ok { draft with properties := draft.properties ++ [property] }

/-! ## Names of nested classes -/

/-- Whether a class nested in this one cannot have this name. -/
def forbidsNested (draft : Draft) (name : String) : Bool :=
  name == draft.name || draft.style.occupies name ||
    draft.nested.any fun inner => inner.name == name

/-- Each enclosing class, sibling and occupied name spoils at most one candidate. -/
def classNameAttempts (draft : Draft) (enclosing : List String) : Nat :=
  enclosing.length + draft.nested.length + draft.style.occupiedNames.length + 2

/-- A name for a class nested in this one; `enclosing` are the names of this class and of the
classes around it. -/
def nameForNested (draft : Draft) (enclosing : List String) (key : String) :
    Except GenerationError String :=
  Candidates.search key (fun raw => draft.namers.className raw .anyObject)
    (fun name => draft.forbidsNested name || enclosing.contains name)
    (.unusableName key .className) (draft.classNameAttempts enclosing) 0

end Draft
end JsonClasses
