import JsonClasses.ClassTree.OfSample
import JsonClasses.Java.Source
import JsonClasses.Json.Reader
import JsonClasses.Settings

/-! # From a JSON text to a source file -/
namespace JsonClasses

/-- How to read a text, name and style its classes, and write them. -/
structure Generator where
  namers : Namers := .standard
  reader : String → Except Json.SyntaxError Json := Json.read
  renderer : String → ClassTree → Except GenerationError String := Java.render
  style : Style := .model

namespace Generator

/-- The standard namers with these settings; reader and renderer stay. -/
def withSettings (generator : Generator) (settings : Settings) : Generator :=
  { generator with namers := .ofSpellings settings.naming, style := settings.style }

/-- A generator with the standard namers, for any way to read texts. -/
def ofReader (reader : String → Except Json.SyntaxError Json) (settings : Settings) : Generator :=
  withSettings { reader } settings

/-- The class tree of a text. -/
def classTree (generator : Generator) (className text : String) (style : Style) :
    Except GenerationError ClassTree :=
  match generator.reader text with
  | .error error => .error (.malformedText error)
  | .ok sample => ClassTree.ofSample generator.namers style className sample

def generateIn (generator : Generator) (style : Style) (package className text : String) :
    Except GenerationError String :=
  match generator.classTree className text style with
  | .error e => .error e
  | .ok tree => generator.renderer package tree

/-- The source file of a text, in the style of the generator. -/
def generate (generator : Generator) (package className text : String) :
    Except GenerationError String :=
  generator.generateIn generator.style package className text

end Generator
end JsonClasses
