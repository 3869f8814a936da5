import JsonClasses.Json.Reader

/-! # Values without effect

A value that nobody asks for only has to be well-formed: numbers of any size, surrogates without a
partner and any depth are let through. -/
namespace JsonClasses.Json

/-- What follows at least one digit. -/
def skipDigits? (cs : List Char) : Option (List Char) :=
  if Decimal.startsWithDigit cs then some (cs.dropWhile Char.isDigit) else none

def skipWhole? : List Char → Option (List Char)
  | '0' :: rest => if Decimal.startsWithDigit rest then none else some rest
  | cs => skipDigits? cs

def skipFraction? : List Char → Option (List Char)
  | '.' :: rest => skipDigits? rest
  | rest => some rest

def skipExponent? : List Char → Option (List Char)
  | 'e' :: '+' :: rest | 'e' :: '-' :: rest | 'E' :: '+' :: rest | 'E' :: '-' :: rest =>
      skipDigits? rest
  | 'e' :: rest | 'E' :: rest => skipDigits? rest
  | rest => some rest

def skipNumber? (cs : List Char) : Option (List Char) := do
  skipExponent? (← skipFraction? (← skipWhole? cs))

/-- What follows a string whose opening quote has been read. -/
def skipString? : List Char → Option (List Char)
  | [] => none
  | '"' :: rest => some rest
  | '\\' :: 'u' :: a :: b :: c :: d :: rest =>
      if (Text.hexNumber? [a, b, c, d]).isSome then skipString? rest else none
  | '\\' :: c :: rest => if (plainEscape? c).isSome then skipString? rest else none
  | c :: rest => if c < ' ' then none else skipString? rest

def skipLeaf? : List Char → Option (List Char)
  | 'n' :: 'u' :: 'l' :: 'l' :: rest => some rest
  | 't' :: 'r' :: 'u' :: 'e' :: rest => some rest
  | 'f' :: 'a' :: 'l' :: 's' :: 'e' :: rest => some rest
  | '"' :: rest => skipString? rest
  | '-' :: rest => skipNumber? rest
  | cs => skipNumber? cs

/-- The containers that are open, innermost first; true for an object. -/
abbrev OpenContainers := List Bool

mutual

/-- Skips a value and all that its open containers hold; `fuel` bounds the steps. -/
def skipValue? (fuel : Nat) (containers : OpenContainers) (cs : List Char) :
    Option (List Char) :=
  match fuel with
  | 0 => none
  | fuel + 1 =>
      match skipBlanks cs with
      | '[' :: rest => skipNext? fuel true (false :: containers) rest
      | '{' :: rest => skipNext? fuel true (true :: containers) rest
      | rest => (skipLeaf? rest).bind fun rest => skipNext? fuel false containers rest

/-- Goes on behind a value, or behind an opening bracket if `first`. -/
def skipNext? (fuel : Nat) (first : Bool) (containers : OpenContainers) (cs : List Char) :
    Option (List Char) :=
  match fuel, containers with
  | 0, _ => none
  | _, [] => some cs
  | fuel + 1, false :: outer =>
      match nextElement first cs with
      | .error _ => none
      | .ok (false, rest) => skipNext? fuel false outer rest
      | .ok (true, rest) => skipValue? fuel containers rest
  | fuel + 1, true :: outer =>
      match nextKey first cs with
      | .error _ => none
      | .ok (false, rest) => skipNext? fuel false outer rest
      | .ok (true, rest) =>
          (skipString? rest).bind fun rest =>
            match readColon rest with
            | .error _ => none
            | .ok rest => skipValue? fuel containers rest

end

/-- What follows a value. -/
def skip? (cs : List Char) : Option (List Char) := skipValue? (fuelFor cs) [] cs

end JsonClasses.Json
