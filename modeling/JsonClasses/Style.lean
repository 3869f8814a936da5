import JsonClasses.Text.Casing

/-! # Class styles

A style decides which members are written for a property; it has no part in the types. -/
namespace JsonClasses

/-- Modifiers of a declaration, in the order in which they are written. -/
inductive Modifier
  | publicAccess
  | protectedAccess
  | privateAccess
  | abstract
  | static
  | final
  deriving DecidableEq, Repr

namespace Modifier

def all : List Modifier :=
  [publicAccess, protectedAccess, privateAccess, abstract, static, final]

def keyword : Modifier → String
  | publicAccess => "public"
  | protectedAccess => "protected"
  | privateAccess => "private"
  | abstract => "abstract"
  | static => "static"
  | final => "final"

/-- The modifiers of a list in order, each once. -/
def arranged (modifiers : List Modifier) : List Modifier := all.filter fun m => modifiers.contains m

end Modifier

inductive Construction
  /-- A public constructor without parameters. -/
  | empty
  /-- A public constructor that takes every property. -/
  | allProperties
  /-- A private constructor that takes the nested builder. -/
  | fromBuilder
  deriving DecidableEq, Repr

inductive Annotations
  | gson
  | jackson
  deriving DecidableEq, Repr

/-- The annotation types that the source refers to by their simple names. -/
def Annotations.typeNames : Annotations → List String
  | gson => ["SerializedName"]
  | jackson => ["JsonCreator", "JsonProperty"]

inductive Style
  /-- Final fields, a constructor for all of them, getters. -/
  | model
  /-- An empty constructor, getters and setters. -/
  | bean
  /-- Final fields, filled from a nested builder. -/
  | builder
  /-- A model whose fields name their keys. -/
  | gson
  /-- A model whose constructor parameters name their keys. -/
  | jackson
  deriving DecidableEq, Repr

namespace Style

def all : List Style := [model, bean, builder, gson, jackson]

def name : Style → String
  | model => "model"
  | bean => "bean"
  | builder => "builder"
  | gson => "gson"
  | jackson => "jackson"

def ofName? (name : String) : Option Style := all.find? fun style => style.name == name

/-- Reads a name as a person types it: letter case and surrounding white space do not matter. -/
def read? (text : String) : Option Style := ofName? (Text.lower (Text.trim text))

def unknownMessage (text : String) : String :=
  "unknown class style '" ++ text ++ "', expected one of: " ++
    String.intercalate ", " (all.map name)

/-! ## Members -/

def fieldModifiers : Style → List Modifier
  | bean => [.privateAccess]
  | model | builder | gson | jackson => [.privateAccess, .final]

def construction : Style → Construction
  | bean => .empty
  | builder => .fromBuilder
  | model | gson | jackson => .allProperties

/-- No style goes without getters. -/
def hasGetters : Style → Bool
  | model | bean | builder | gson | jackson => true

@[simp] theorem hasGetters_eq (style : Style) : style.hasGetters = true := by cases style <;> rfl

def hasSetters (style : Style) : Bool := style == bean

def hasBuilder (style : Style) : Bool := style == builder

def annotations? : Style → Option Annotations
  | gson => some .gson
  | jackson => some .jackson
  | model | bean | builder => none

/-! ## Type names -/

/-- The name of the nested class that builds its outer class. -/
def builderName : String := "Builder"

/-- The types that the source refers to by simple names, so that no class may have these names. -/
def occupiedNames (style : Style) : List String :=
  ["Boolean", "Double", "List", "Long", "Object", "String"] ++
    (if style.hasBuilder then [builderName] else []) ++
    (match style.annotations? with
      | none => []
      | some annotations => annotations.typeNames)

def occupies (style : Style) (name : String) : Bool := style.occupiedNames.contains name

end Style
end JsonClasses
