/-! # Candidate names

Where a name is taken, the raw name is tried again with a number behind it: `key`, `key_2`,
`key_3`, … -/
namespace JsonClasses.Candidates

/-- The raw name of the attempt with this index. -/
def nth (key : String) : Nat → String
  | 0 => key
  | n + 1 => key ++ "_" ++ toString (n + 2)

/-- Derives from one candidate after the other, from `index` on, until the result is free. A
candidate from which nothing can be derived ends the search, and so does the last attempt. -/
def search {ε α : Type} (key : String) (derive : String → Except ε α) (isTaken : α → Bool)
    (giveUp : ε) : (attempts index : Nat) → Except ε α
  | 0, _ => .error giveUp
  | attempts + 1, index =>
      match derive (nth key index) with
      | .error e => .error e
      | .ok x => if isTaken x then search key derive isTaken giveUp attempts (index + 1) else .ok x

end JsonClasses.Candidates
