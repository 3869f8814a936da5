import JsonClasses.Text.Digit

/-! # Dates and times in TOML

Dates `1979-05-27`, times `07:32:00.5` whose seconds may be left out, and both together with an
offset from universal time. -/
namespace JsonClasses.Toml.DateTime
open Text (digit?)

/-- A number of two digits. -/
def pair? : List Char → Option (Nat × List Char)
  | a :: b :: rest => do return ((← digit? 10 a) * 10 + (← digit? 10 b), rest)
  | _ => none

def expect? (c : Char) : List Char → Option (List Char)
  | d :: rest => if d = c then some rest else none
  | [] => none

def isLeapYear (year : Nat) : Bool :=
  year % 4 == 0 && (year % 100 != 0 || year % 400 == 0)

def daysIn (year month : Nat) : Nat :=
  if month = 2 then (if isLeapYear year then 29 else 28)
  else if [4, 6, 9, 11].contains month then 30
  else 31

/-- What follows a date. -/
def afterDate? (cs : List Char) : Option (List Char) := do
  let (century, rest) ← pair? cs
  let (year, rest) ← pair? rest
  let (month, rest) ← pair? (← expect? '-' rest)
  let (day, rest) ← pair? (← expect? '-' rest)
  guard (1 ≤ month ∧ month ≤ 12)
  guard (1 ≤ day ∧ day ≤ daysIn (century * 100 + year) month)
  return rest

/-- What follows the fraction of a second. -/
def afterFraction? : List Char → Option (List Char)
  | '.' :: rest =>
      if (rest.takeWhile Char.isDigit).isEmpty then none else some (rest.dropWhile Char.isDigit)
  | rest => some rest

def afterSeconds? : List Char → Option (List Char)
  | ':' :: rest => do
      let (second, rest) ← pair? rest
      guard (second ≤ 60)
      afterFraction? rest
  | rest => some rest

/-- What follows a time. -/
def afterTime? (cs : List Char) : Option (List Char) := do
  let (hour, rest) ← pair? cs
  let (minute, rest) ← pair? (← expect? ':' rest)
  guard (hour ≤ 23 ∧ minute ≤ 59)
  afterSeconds? rest

def isOffset (cs : List Char) : Bool :=
  match cs with
  | ['Z'] | ['z'] => true
  | sign :: rest =>
      (sign == '+' || sign == '-') && (do
        let (hour, rest) ← pair? rest
        let (minute, rest) ← pair? (← expect? ':' rest)
        guard (hour ≤ 23 ∧ minute ≤ 59 ∧ rest = [])).isSome
  | [] => false

def isTimeMark (c : Char) : Bool := c == 'T' || c == 't' || c == ' '

/-- Whether the characters are a date, a time, or both. -/
def isValid (cs : List Char) : Bool :=
  match afterDate? cs with
  | some [] => true
  | some (mark :: rest) =>
      isTimeMark mark &&
        match afterTime? rest with
        | some rest => rest.isEmpty || isOffset rest
        | none => false
  | none => afterTime? cs == some []

end JsonClasses.Toml.DateTime
