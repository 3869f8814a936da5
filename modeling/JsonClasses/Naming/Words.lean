import JsonClasses.Unicode.Property

/-! # Words of a raw name

Every character that is not alphanumeric separates words. Inside a run of alphanumeric characters
a word also starts at a capital behind a lower-case letter or a digit, and at the last capital of
several when a lower-case letter follows: `HTTPServer` is `HTTP`, `Server`. -/
namespace JsonClasses.Words
open Unicode

/-- The word whose characters were collected latest first; nothing if there are none. -/
def closed (word : List Char) : List (List Char) :=
  if word.isEmpty then [] else [word.reverse]

/-- The words that remain when `word`, latest character first, is still open. -/
def splitFrom (word : List Char) : List Char → List (List Char)
  | [] => closed word
  | c :: rest =>
      if isAlphanumeric c then
        match word with
        | [] => splitFrom [c] rest
        | last :: earlier =>
            -- a capital behind a lower-case letter or a digit: the word ends before it
            if isUppercase c && (isLowercase last || isNumeric last) then
              closed word ++ splitFrom [c] rest
            -- the end of an acronym: its last capital already belongs to the next word
            else if isLowercase c && isUppercase last && !earlier.isEmpty then
              closed earlier ++ splitFrom [c, last] rest
            else splitFrom (c :: word) rest
      else closed word ++ splitFrom [] rest

def split (raw : String) : List String := (splitFrom [] raw.toList).map String.ofList

end JsonClasses.Words
