import JsonClasses.ClassTree.Basic

/-! # Imports of a source file -/
namespace JsonClasses.Java

def usesSerializedName (c : ClassTree) : Bool :=
  c.style.annotations? == some .gson && !c.properties.isEmpty

def usesJsonCreator (c : ClassTree) : Bool := c.style.annotations? == some .jackson

def usesJsonProperty (c : ClassTree) : Bool := usesJsonCreator c && !c.properties.isEmpty

/-- The imported types in alphabetical order, each with whether the tree needs it. -/
def importNeeds (tree : ClassTree) : List (String × Bool) :=
  [("com.fasterxml.jackson.annotation.JsonCreator", tree.subtrees.any usesJsonCreator),
   ("com.fasterxml.jackson.annotation.JsonProperty", tree.subtrees.any usesJsonProperty),
   ("com.google.gson.annotations.SerializedName", tree.subtrees.any usesSerializedName),
   ("java.util.List", tree.mentionsList)]

def imports (tree : ClassTree) : List String :=
  ((importNeeds tree).filter (·.2)).map (·.1)

end JsonClasses.Java
