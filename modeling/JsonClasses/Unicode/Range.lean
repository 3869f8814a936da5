/-! # Code point ranges and shifts

A property of characters is a sorted list of inclusive ranges, a case mapping a list of shifts
sorted by their first code point. Both are searched in order, and the search ends at the first
entry that lies beyond the code point. -/
namespace JsonClasses.Unicode

/-- The first and the last code point. -/
abbrev Range := Nat × Nat

/-- Whether one of the ranges holds the code point. -/
def covers : List Range → Nat → Bool
  | [], _ => false
  | (first, last) :: rest, c =>
      if c < first then false else decide (c ≤ last) || covers rest c

/-- Every `step`-th code point from `first` to `last` is sent to the code point that lies as far
behind `target`. -/
structure Shift where
  first : Nat
  last : Nat
  step : Nat
  target : Nat
  deriving DecidableEq, Repr

def Shift.image? (s : Shift) (c : Nat) : Option Nat :=
  if s.first ≤ c ∧ c ≤ s.last ∧ (c - s.first) % s.step = 0 then some (s.target + (c - s.first))
  else none

/-- A code point that no shift names stays as it is. -/
def shifted : List Shift → Nat → Nat
  | [], c => c
  | s :: rest, c =>
      if c < s.first then c
      else match s.image? c with
        | some image => image
        | none => shifted rest c

/-- The code points that a single one expands to, where it expands at all. -/
def expansion? : List (Nat × List Nat) → Nat → Option (List Nat)
  | [], _ => none
  | (source, images) :: rest, c =>
      if c < source then none else if c = source then some images else expansion? rest c

end JsonClasses.Unicode
