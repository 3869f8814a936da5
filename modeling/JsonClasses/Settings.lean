import JsonClasses.Naming.Namer
import JsonClasses.Style

/-! # Settings -/
namespace JsonClasses

/-- The style of classes and the spelling of each kind of name. -/
structure Settings where
  style : Style := .model
  naming : Spellings := {}
  deriving DecidableEq, Repr

end JsonClasses
