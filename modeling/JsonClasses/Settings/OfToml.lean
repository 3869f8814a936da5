import JsonClasses.Settings
import JsonClasses.Toml.Reader

/-! # Settings from TOML

No key may be left without effect: unknown keys are refused before any value is looked at. -/
namespace JsonClasses

inductive SettingsError
  /-- The text is not TOML. -/
  | malformed
  | unknownKey (key : String)
  | namingNotTable
  | unknownNamingKey (key : String)
  /-- A known key has a value that is not one of its names. -/
  | badValue
  deriving DecidableEq, Repr

def SettingsError.message : SettingsError → String
  | malformed | badValue => "Failed to parse config"
  | unknownKey key => "Unknown config key: " ++ key
  | namingNotTable => "[naming] must be a table"
  | unknownNamingKey key => "Unknown key in [naming]: " ++ key

namespace Settings

/-! ## The library -/

/-- What settings take from a library for TOML: the table of a text, the entries of a value that is
a table, and what a value stands for. The order of entries is of no account. -/
structure Library where
  Value : Type
  read? : String → Option (List (String × Value))
  entries? : Value → Option (List (String × Value))
  style? : Value → Option Style
  spelling? : Value → Option Spelling

abbrev Library.Table (library : Library) := List (String × library.Value)

/-- A table that carries a date is none. -/
def entriesOf? : Toml.Value → Option Toml.Table
  | .table _ entries => if (Toml.Table.carried? entries).isSome then none else some entries
  | _ => none

def isVoid : Toml.Value → Bool
  | .array [] => true
  | .table _ [] => true
  | _ => false

/-- A name stands as a string, or as the only key of a table whose value is empty. -/
def nameOf? : Toml.Value → Option String
  | .text name => some name
  | .table _ [(name, value)] => if isVoid value then some name else none
  | _ => none

def Library.standard : Library where
  Value := Toml.Value
  read? := Toml.read?
  entries? := entriesOf?
  style? value := (nameOf? value).bind Style.ofName?
  spelling? value := (nameOf? value).bind Spelling.ofName?

/-! ## Keys -/

def topKeys : List String := ["style", "naming"]

def namingKeys : List String := ["class_case", "field_case", "method_case", "parameter_case"]

/-- The least key that is not known. -/
def unknownKey? {α : Type} (known : List String) (table : List (String × α)) : Option String :=
  Toml.Table.leastKey? ((table.map (·.1)).filter fun key => !known.contains key)

def checkNamingKeys (library : Library) (naming : library.Value) : Except SettingsError Unit :=
  match library.entries? naming with
  | none => .error .namingNotTable
  | some entries =>
      match unknownKey? namingKeys entries with
      | some key => .error (.unknownNamingKey key)
      | none => .ok ()

/-- Refuses keys that would have no effect. -/
def checkKeys (library : Library) (table : library.Table) : Except SettingsError Unit :=
  match unknownKey? topKeys table with
  | some key => .error (.unknownKey key)
  | none =>
      match table.lookup "naming" with
      | none => .ok ()
      | some naming => checkNamingKeys library naming

/-! ## Values -/

/-- The value of a key, where it may be left out. -/
def valueAt {α β : Type} (table : List (String × β)) (key : String) (decode : β → Option α)
    (usual : α) : Except SettingsError α :=
  match table.lookup key with
  | none => .ok usual
  | some value =>
      match decode value with
      | some x => .ok x
      | none => .error .badValue

def namingOf (library : Library) (table : library.Table) : Except SettingsError Spellings := do
  let usual : Spellings := {}
  let className ← valueAt table "class_case" library.spelling? usual.className
  let field ← valueAt table "field_case" library.spelling? usual.field
  let method ← valueAt table "method_case" library.spelling? usual.method
  let parameter ← valueAt table "parameter_case" library.spelling? usual.parameter
  .ok ⟨className, field, method, parameter⟩

def namingAt (library : Library) (table : library.Table) : Except SettingsError Spellings :=
  match table.lookup "naming" with
  | none => .ok {}
  | some naming =>
      match library.entries? naming with
      | some entries => namingOf library entries
      | none => .error .namingNotTable

def ofTable (library : Library) (table : library.Table) : Except SettingsError Settings := do
  checkKeys library table
  let style ← valueAt table "style" library.style? .model
  let naming ← namingAt library table
  .ok ⟨style, naming⟩

/-- Checks the form and the keys of a settings text, not the values. -/
def checkToml (text : String) (library : Library := .standard) : Except SettingsError Unit :=
  match library.read? text with
  | none => .error .malformed
  | some table => checkKeys library table

def ofToml (text : String) (library : Library := .standard) : Except SettingsError Settings :=
  match library.read? text with
  | none => .error .malformed
  | some table => ofTable library table

end Settings
end JsonClasses
