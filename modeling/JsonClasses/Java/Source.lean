import JsonClasses.Java.Imports
import JsonClasses.Java.Package
import JsonClasses.Java.Page
import JsonClasses.Java.StringLiteral
import JsonClasses.Java.TypeSpelling

/-! # The source of a class tree

The root is a top-level class, and every other class is nested in its parent. The members of a class
come in a fixed order: fields, constructor, getters and setters, nested classes, builder. -/
namespace JsonClasses.Java

variable {depth : Nat}

/-- What is declared, behind its modifiers. -/
def modified (modifiers : List Modifier) (declared : String) : String :=
  String.intercalate " " (modifiers.map Modifier.keyword ++ [declared])

/-! ## Fields -/

def fieldLine (style : Style) (p : Property) : String :=
  modified style.fieldModifiers (plainType p.type) ++ " " ++ p.field ++ ";"

def fieldLines (style : Style) (p : Property) : List String :=
  if style.annotations? = some .gson then
    ["@SerializedName(" ++ literalOf p.key ++ ")", fieldLine style p]
  else [fieldLine style p]

def addFields (style : Style) (properties : List Property) (page : Page depth) : Page depth :=
  if properties.isEmpty then page
  else page.gap.putLines (properties.flatMap (fieldLines style))

/-! ## Constructors -/

def assignment (p : Property) : String := "this." ++ p.field ++ " = " ++ p.parameter ++ ";"

def builderAssignment (p : Property) : String :=
  "this." ++ p.field ++ " = builder." ++ p.field ++ ";"

def parameter (p : Property) : String := plainType p.type ++ " " ++ p.parameter

def annotatedParameter (p : Property) : String :=
  "@JsonProperty(" ++ literalOf p.key ++ ") " ++ parameter p

def constructorHeader (name : String) (parameters : List String) : String :=
  "public " ++ name ++ "(" ++ String.intercalate ", " parameters ++ ")"

def addConstructor (style : Style) (name : String) (properties : List Property)
    (page : Page depth) : Page depth :=
  match style.construction with
  | .empty => page.gap.putBlock (constructorHeader name []) []
  | .allProperties =>
      if style.annotations? = some .jackson then
        (page.gap.putLine "@JsonCreator").putBlock
          (constructorHeader name (properties.map annotatedParameter))
          (properties.map assignment)
      else
        page.gap.putBlock (constructorHeader name (properties.map parameter))
          (properties.map assignment)
  | .fromBuilder =>
      page.gap.putBlock ("private " ++ name ++ "(" ++ Style.builderName ++ " builder)")
        (properties.map builderAssignment)

/-! ## Getters and setters -/

def addGetter (page : Page depth) (p : Property) : Page depth :=
  match p.getter with
  | none => page
  | some getter =>
      page.gap.putBlock ("public " ++ plainType p.type ++ " " ++ getter ++ "()")
        ["return " ++ p.field ++ ";"]

def addSetter (page : Page depth) (p : Property) : Page depth :=
  match p.setter with
  | none => page
  | some setter =>
      page.gap.putBlock ("public void " ++ setter ++ "(" ++ parameter p ++ ")") [assignment p]

def addAccessors (properties : List Property) (page : Page depth) : Page depth :=
  properties.foldl (fun page p => addSetter (addGetter page p) p) page

/-! ## Builders -/

def addBuilderFields (properties : List Property) (page : Page depth) : Page depth :=
  if properties.isEmpty then page
  else page.gap.putLines
    (properties.map fun p => "private " ++ plainType p.type ++ " " ++ p.field ++ ";")

def addBuilderMethod (page : Page depth) (p : Property) : Page depth :=
  match p.builderMethod with
  | none => page
  | some method =>
      page.gap.putBlock
        ("public " ++ Style.builderName ++ " " ++ method ++ "(" ++ parameter p ++ ")")
        [assignment p, "return this;"]

def addBuilder (name : String) (properties : List Property) (page : Page depth) : Page depth :=
  let page := page.gap.openBlock ("public static final class " ++ Style.builderName)
  let page := properties.foldl addBuilderMethod (addBuilderFields properties page)
  (page.gap.putBlock ("public " ++ name ++ " build()")
    ["return new " ++ name ++ "(this);"]).closeBlock

/-! ## Classes -/

mutual

def addClass {depth : Nat} (page : Page depth) : ClassTree → Page depth
  | ⟨name, modifiers, style, properties, nested⟩ =>
      let page := page.openBlock (modified modifiers ("class " ++ name))
      let page := addFields style properties page
      let page := addConstructor style name properties page
      let page := addAccessors properties page
      let page := addNested page nested
      let page := if style.hasBuilder then addBuilder name properties page else page
      page.closeBlock

def addNested {depth : Nat} (page : Page depth) : List ClassTree → Page depth
  | [] => page
  | tree :: rest => addNested (addClass page.gap tree) rest

end

/-! ## Source files -/

/-- The package line and the imports, each group with a blank line behind it. -/
def preamble (package : String) (imported : List String) : Page 0 :=
  let page :=
    if package.isEmpty then .blank
    else (Page.blank.putLine ("package " ++ package ++ ";")).put "\n"
  if imported.isEmpty then page
  else (page.putLines (imported.map fun name => "import " ++ name ++ ";")).put "\n"

/-- The source file of a class tree in a package. -/
def render (package : String) (tree : ClassTree) : Except GenerationError String :=
  match checkPackage package with
  | .error e => .error e
  | .ok () => .ok (addClass (preamble package (imports tree)) tree).text

end JsonClasses.Java
