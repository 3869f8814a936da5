import JsonClasses.Json.Fault

/-! # Numbers in JSON text

The digits of a number are gathered in a significand of 64 bits and a power of ten. Digits of the
integer part that no longer fit raise the power, digits of the fraction that no longer fit are
dropped. The value is the significand times or divided by the power of ten, rounded at each step. -/
namespace JsonClasses.Json

structure Decimal where
  significand : Nat
  exponent : Int

namespace Decimal

def significandBound : Nat := Nat.pow 2 64

def exponentBound : Nat := Nat.pow 2 31

def digitValue (c : Char) : Nat := c.toNat - '0'.toNat

def startsWithDigit : List Char → Bool
  | [] => false
  | c :: _ => c.isDigit

/-- Reads the remaining digits of the integer part. -/
def readInteger (d : Decimal) : List Char → Decimal × List Char
  | [] => (d, [])
  | c :: rest =>
      if c.isDigit then
        let longer := d.significand * 10 + digitValue c
        if d.exponent = 0 ∧ longer < significandBound then readInteger ⟨longer, 0⟩ rest
        else readInteger ⟨d.significand, d.exponent + 1⟩ rest
      else (d, c :: rest)

/-- Reads the digits behind the point; `full` once a digit was dropped. -/
def readFraction (d : Decimal) (full : Bool) : List Char → Decimal × List Char
  | [] => (d, [])
  | c :: rest =>
      if c.isDigit then
        let longer := d.significand * 10 + digitValue c
        if !full ∧ longer < significandBound then
          readFraction ⟨longer, d.exponent - 1⟩ false rest
        else readFraction d true rest
      else (d, c :: rest)

/-- The powers of ten up to the largest that a double holds. -/
def tenTo (e : Nat) : Float := Float.ofScientific 1 false e

/-- The double that a decimal stands for, or nothing if it is too large. -/
def value? (d : Decimal) : Option Float :=
  let m := Float.ofNat d.significand
  if 0 ≤ d.exponent then
    if d.exponent ≤ 308 then
      let x := m * tenTo d.exponent.toNat
      if x.isInf then none else some x
    else if d.significand = 0 then some 0 else none
  else if -308 ≤ d.exponent then some (m / tenTo (-d.exponent).toNat)
  else if -616 ≤ d.exponent then some (m / tenTo 308 / tenTo (-d.exponent - 308).toNat)
  else some 0

/-- Reads the digits of an exponent; stops behind the digit that takes it over its bound. -/
def readExponent (e : Nat) : List Char → Nat × List Char
  | [] => (e, [])
  | c :: rest =>
      if c.isDigit then
        let longer := e * 10 + digitValue c
        if longer < exponentBound then readExponent longer rest else (longer, rest)
      else (e, c :: rest)

/-- The value of a decimal that ends here. -/
def close (d : Decimal) (rest : List Char) : Except Fault (Float × List Char) :=
  match d.value? with
  | some x => .ok (x, rest)
  | none => failAt .numberTooLarge rest 0

/-- Reads what follows `e`: a sign and digits. -/
def readScale (d : Decimal) (cs : List Char) : Except Fault (Float × List Char) :=
  let (negative, digits) := match cs with
    | '+' :: rest => (false, rest)
    | '-' :: rest => (true, rest)
    | _ => (false, cs)
  match digits with
  | [] => failAt .endInValue [] 0
  | c :: rest =>
      if c.isDigit then
        let (e, rest) := readExponent (digitValue c) rest
        if e < exponentBound then
          close ⟨d.significand, if negative then d.exponent - e else d.exponent + e⟩ rest
        -- out of bounds: too large, unless zero is scaled or the power is negative
        else if d.significand ≠ 0 ∧ !negative then failAt .numberTooLarge rest 0
        else .ok (0, rest.dropWhile Char.isDigit)
      else failAt .badNumber digits 1

def readTail (d : Decimal) : List Char → Except Fault (Float × List Char)
  | 'e' :: rest | 'E' :: rest => readScale d rest
  | rest => close d rest

/-- Reads what follows the integer part. -/
def readRest (d : Decimal) : List Char → Except Fault (Float × List Char)
  | '.' :: rest =>
      if startsWithDigit rest then
        let (d, rest) := readFraction d false rest
        readTail d rest
      else failNext (if rest.isEmpty then .endInValue else .badNumber) rest
  | rest => readTail d rest

/-- Reads a number without its sign. -/
def read : List Char → Except Fault (Float × List Char)
  | [] => failAt .endInValue [] 0
  | '0' :: rest =>
      if startsWithDigit rest then failNext .badNumber rest else readRest ⟨0, 0⟩ rest
  | c :: rest =>
      if c.isDigit then
        let (d, rest) := readInteger ⟨digitValue c, 0⟩ rest
        readRest d rest
      else failAt .badNumber (c :: rest) 1

end Decimal
end JsonClasses.Json
