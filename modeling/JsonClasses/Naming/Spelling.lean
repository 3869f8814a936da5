import JsonClasses.Naming.Words
import JsonClasses.Text.Casing

/-! # Spellings of a list of words -/
namespace JsonClasses

/-- How the words of a name are written together: `userId`, `UserId`, `user_id`, `USER_ID`,
`user-id`. -/
inductive Spelling
  | lowerCamel
  | upperCamel
  | lowerSnake
  | upperSnake
  | kebab
  deriving DecidableEq, Repr

namespace Spelling

def all : List Spelling := [lowerCamel, upperCamel, lowerSnake, upperSnake, kebab]

def name : Spelling → String
  | lowerCamel => "lower-camel"
  | upperCamel => "upper-camel"
  | lowerSnake => "lower-snake"
  | upperSnake => "upper-snake"
  | kebab => "kebab"

def join : Spelling → List String → String
  | lowerCamel, [] => ""
  | lowerCamel, first :: rest => Text.lower first ++ String.join (rest.map Text.capitalize)
  | upperCamel, words => String.join (words.map Text.capitalize)
  | lowerSnake, words => String.intercalate "_" (words.map Text.lower)
  | upperSnake, words => String.intercalate "_" (words.map Text.upper)
  | kebab, words => String.intercalate "-" (words.map Text.lower)

/-- The words of a raw name, joined in this spelling. -/
def respell (spelling : Spelling) (raw : String) : String := spelling.join (Words.split raw)

def ofName? (name : String) : Option Spelling := all.find? fun spelling => spelling.name == name

/-- Reads a name as a person types it: letter case, surrounding white space and the choice between
`_` and `-` do not matter. -/
def read? (text : String) : Option Spelling :=
  let plain := (Text.lower (Text.trim text)).toList.map fun c => if c = '_' then '-' else c
  ofName? (String.ofList plain)

def unknownMessage (text : String) : String :=
  "unknown naming case '" ++ text ++ "', expected one of: " ++
    String.intercalate ", " (all.map name)

end Spelling
end JsonClasses
