/-! # Parts between separators -/
namespace JsonClasses.Text

/-- The parts of a text between the separators; without a separator the text is the only part. -/
def partsBetween (separator : Char) : List Char → List (List Char)
  | [] => [[]]
  | c :: rest =>
      if c = separator then [] :: partsBetween separator rest
      else match partsBetween separator rest with
        | [] => [[c]]
        | part :: parts => (c :: part) :: parts

def separated (separator : Char) (s : String) : List String :=
  (partsBetween separator s.toList).map String.ofList

end JsonClasses.Text
