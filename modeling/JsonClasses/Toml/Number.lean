import JsonClasses.Text.Digit

/-! # Numbers in TOML

Digits may be grouped by single underscores. Reading a number sets no bound on it; which integers
fit 64 bits and which decimals a double is asked apart. -/
namespace JsonClasses.Toml.Number
open Text (digit?)

/-- Reads digits on from `n`, counting them. -/
def digitsFrom (base n count : Nat) : List Char → Nat × Nat × List Char
  | [] => (n, count, [])
  | '_' :: c :: rest =>
      match digit? base c with
      | some d => digitsFrom base (n * base + d) (count + 1) rest
      | none => (n, count, '_' :: c :: rest)
  | c :: rest =>
      match digit? base c with
      | some d => digitsFrom base (n * base + d) (count + 1) rest
      | none => (n, count, c :: rest)

/-- Reads a run of digits: its value, its length and what follows. -/
def digits? (base : Nat) : List Char → Option (Nat × Nat × List Char)
  | [] => none
  | c :: rest => (digit? base c).map fun d => digitsFrom base d 1 rest

def all? (base : Nat) (cs : List Char) : Option Nat :=
  match digits? base cs with
  | some (n, _, []) => some n
  | _ => none

/-- A sign and what follows it; true if negative. -/
def signed : List Char → Bool × List Char
  | '-' :: rest => (true, rest)
  | '+' :: rest => (false, rest)
  | rest => (false, rest)

/-- Reads an integer part: a zero stands alone. -/
def whole? (cs : List Char) : Option (Nat × Nat × List Char) :=
  match digits? 10 cs with
  | some (n, count, rest) =>
      if cs.head? = some '0' ∧ 1 < count then none else some (n, count, rest)
  | none => none

def integerBound : Nat := Nat.pow 2 63

def isInRange (n : Int) : Bool := decide (-(integerBound : Int) ≤ n ∧ n < integerBound)

def integer? (cs : List Char) : Option Int :=
  match cs with
  | '0' :: 'x' :: rest => (all? 16 rest).map Int.ofNat
  | '0' :: 'o' :: rest => (all? 8 rest).map Int.ofNat
  | '0' :: 'b' :: rest => (all? 2 rest).map Int.ofNat
  | _ =>
      let (negative, rest) := signed cs
      match whole? rest with
      | some (n, _, []) => some (if negative then -n else n)
      | _ => none

/-! ## Floats -/

/-- The exponent behind `e`, with its sign. -/
def exponent? (cs : List Char) : Option Int :=
  let (negative, rest) := signed cs
  (all? 10 rest).map fun e => if negative then -(e : Int) else e

/-- Half a step beyond the largest double. -/
def tooLarge : Nat := Nat.pow 2 1024 - Nat.pow 2 970

/-- Whether a decimal is within the range of a double. -/
def isFinite (significand : Nat) (exponent : Int) : Bool :=
  if significand = 0 then true
  else
    let size := (Nat.toDigits 10 significand).length + exponent
    if size < 300 then true
    else if 310 < size then false
    else if 0 ≤ exponent then decide (significand * Nat.pow 10 exponent.toNat < tooLarge)
    else decide (significand < tooLarge * Nat.pow 10 (-exponent).toNat)

/-- Reads a fraction, if there is one, on from the integer part: all digits as one number, the
count of those behind the point, and what follows. -/
def fraction? (n : Nat) : List Char → Option (Nat × Nat × List Char)
  | '.' :: c :: rest => (digit? 10 c).map fun d => digitsFrom 10 (n * 10 + d) 1 rest
  | ['.'] => none
  | rest => some (n, 0, rest)

/-- The significand and the exponent of a decimal, which has a fraction or an exponent. -/
def decimal? (cs : List Char) : Option (Nat × Int) :=
  match whole? cs with
  | none => none
  | some (n, _, rest) =>
      match fraction? n rest with
      | none => none
      | some (m, places, []) => if places = 0 then none else some (m, -places)
      | some (m, places, e :: tail) =>
          if e = 'e' ∨ e = 'E' then (exponent? tail).map fun k => (m, k - places) else none

/-- Whether the characters are a float: a decimal, an infinity, or not a number. -/
def isFloat (cs : List Char) : Bool :=
  let unsigned := (signed cs).2
  unsigned == ['i', 'n', 'f'] || unsigned == ['n', 'a', 'n'] || (decimal? unsigned).isSome

/-- Whether a float has a double next to it: a decimal may be too large. -/
def fitsDouble (cs : List Char) : Bool :=
  match decimal? (signed cs).2 with
  | some (significand, exponent) => isFinite significand exponent
  | none => true

end JsonClasses.Toml.Number
