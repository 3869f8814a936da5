import JsonClasses.Json.Skip
import JsonClasses.Settings

/-! # Settings from JSON

Unlike a settings file, a JSON text may hold keys that are not known. A record is an object, or an
array of its values in order. -/
namespace JsonClasses.Settings
open Json

/-- A reading step that may fail, with what is left of the text. -/
abbrev Reading (α : Type) := List Char → Option (α × List Char)

/-- Reads a name: a string, or the only key of an object whose value is null. -/
def readName : Reading String := fun cs => do
  match skipBlanks cs with
  | '"' :: rest => (readString rest).toOption
  | '{' :: rest =>
      match skipBlanks rest with
      | '"' :: rest =>
          let (name, rest) ← (readString rest).toOption
          match skipBlanks (← (readColon rest).toOption) with
          | 'n' :: 'u' :: 'l' :: 'l' :: rest =>
              match skipBlanks rest with
              | '}' :: rest => return (name, rest)
              | _ => none
          | _ => none
      | _ => none
  | _ => none

def readNamed {α : Type} (find : String → Option α) : Reading α := fun cs => do
  let (name, rest) ← readName cs
  return (← find name, rest)

/-! ## Records -/

/-- The keys of a record, each with how its value is read. -/
abbrev Fields (α : Type) := List (String × Reading α)

/-- Reads the members of an object; a known key may come only once. `fuel` bounds their number. -/
def readMembers {α : Type} (fields : Fields α) (fuel : Nat) (first : Bool)
    (done : List (String × α)) : Reading (List (String × α)) := fun cs =>
  match fuel with
  | 0 => none
  | fuel + 1 => do
      match ← (nextKey first cs).toOption with
      | (false, rest) => return (done, rest)
      | (true, rest) =>
          let (key, rest) ← (readString rest).toOption
          let rest ← (readColon rest).toOption
          match fields.lookup key with
          -- what nobody asks for is skipped, whatever it is
          | none => readMembers fields fuel false done (← skip? rest)
          | some reading =>
              guard (done.lookup key).isNone
              let (value, rest) ← reading rest
              readMembers fields fuel false ((key, value) :: done) rest

/-- Reads the elements of an array as the values of the fields in order. -/
def readElements {α : Type} (first : Bool) : Fields α → Reading (List (String × α))
  | [], cs => do
      match ← (nextElement first cs).toOption with
      | (false, rest) => return ([], rest)
      | (true, _) => none
  | (key, reading) :: fields, cs => do
      match ← (nextElement first cs).toOption with
      | (false, rest) => return ([], rest)
      | (true, rest) =>
          let (value, rest) ← reading rest
          let (values, rest) ← readElements false fields rest
          return ((key, value) :: values, rest)

def readRecord {α : Type} (fields : Fields α) : Reading (List (String × α)) := fun cs =>
  match skipBlanks cs with
  | '{' :: rest => readMembers fields (rest.length + 1) true [] rest
  | '[' :: rest => readElements true fields rest
  | _ => none

/-! ## Settings -/

def readSpellings : Reading Spellings := fun cs => do
  let spelling := readNamed Spelling.ofName?
  let (given, rest) ← readRecord
    [("class_case", spelling), ("field_case", spelling), ("method_case", spelling),
     ("parameter_case", spelling)] cs
  let usual : Spellings := {}
  return ({
    className := (given.lookup "class_case").getD usual.className
    field := (given.lookup "field_case").getD usual.field
    method := (given.lookup "method_case").getD usual.method
    parameter := (given.lookup "parameter_case").getD usual.parameter }, rest)

/-- The value of one key, which leaves the other as it is. -/
inductive Part
  | style (style : Style)
  | naming (spellings : Spellings)

def Part.apply (settings : Settings) : Part → Settings
  | .style s => { settings with style := s }
  | .naming spellings => { settings with naming := spellings }

def mapReading {α β : Type} (f : α → β) (reading : Reading α) : Reading β := fun cs =>
  (reading cs).map fun (x, rest) => (f x, rest)

def readSettings : Reading Settings := fun cs => do
  let (parts, rest) ← readRecord
    [("style", mapReading Part.style (readNamed Style.ofName?)),
     ("naming", mapReading Part.naming readSpellings)] cs
  return ((parts.map (·.2)).foldl Part.apply {}, rest)

def ofJson? (text : String) : Option Settings := do
  let (settings, rest) ← readSettings text.toList
  guard (skipBlanks rest).isEmpty
  return settings

end JsonClasses.Settings
